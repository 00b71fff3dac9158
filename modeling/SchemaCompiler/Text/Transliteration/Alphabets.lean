import SchemaCompiler.Text.Transliteration.Rows

/-!
Letters of other alphabets.

* `alphabetRows`: the spellings of Greek, Cyrillic, Armenian, Georgian, Hebrew and Arabic letters
  and of those of some older alphabets.
-/

namespace SchemaCompiler.Text

/-- The letters of other alphabets. -/
def alphabetRows : List SpellingRow := [
  (0x370, "H h Ss ss '  W w   ' s s s  J"),
  (0x386, "A  E I I  O  Y O i A V G D E Z I Th I K L M N X O P R  S T Y F Ch Ps O I Y a e i i y"),
  (0x3B1, "a v g d e z i th i k l m n x o p r s s t y f ch ps o i y o y o & v th Y Y Y f p & Q q"),
  (0x3DA, "St st W w Q q Ss ss Sh sh F f Kh kh H h J j Q q Ti ti k r s j Th e e Sh sh S S s r S"),
  (0x3FE, "S S E E Dj G Ie Dz I I J Lj Nj C K I U Dzh A B V G D E Zh Z I Y K L M N O P R S T U F"),
  (0x425, "Kh Ts Ch Sh Shch ' Y ' E Yu Ya a b v g d e zh z i y k l m n o p r s t u f kh ts ch sh"),
  (0x449, "shch ' y ' e yu ya e e dj g ie dz i i j lj nj c k i u dzh O o E e Ie ie E e Ie ie O o"),
  (0x46C, "Io io X x Ps ps F f Y y Y y U u O o O o Ot ot Q q"),
  (0x48A, "I i ' ' R r G g Gh gh Gh gh Zh zh Z z Q q K k K k Q q Ng ng Ng ng P p O o S s T t U u"),
  (0x4B0, "U u H h Ts ts Ch ch Ch ch H h Ch ch Ch ch ' Zh zh K k L l Ng ng N n Ch ch M m ' A a A"),
  (0x4D3, "a Ae ae E e A a A a Zh zh Z z Dz dz I i I i O o O o O o E e U u U u U u Ch ch Gh gh Y"),
  (0x4F9, "y Gh gh H h H h D d Dj dj Zj zj Dzj dzj Lj lj Nj nj Sj sj Tj tj E e L l Lh lh Rh rh"),
  (0x518, "Ya ya Q q W w K k L l N n P p H h N n Dzh dzh Ch ch L l  A B G D E Z E Y T' Zh I L Kh"),
  (0x53E, "Ts K H Dz Gh Ch M Y N Sh O Ch' P J Rr S V T R Ts' W P' K' O F   '"),
  (0x560, "y a b g d e z e y t' zh i l kh ts k h dz gh ch m y n sh o ch' p j rr s v t r ts' w p'"),
  (0x584, "k' o f ev y"),
  (0x58F, "AMD"),
  (0x5B0, "e e a o i e e a a o o u"),
  (0x5C6, "n o"),
  (0x5D0, "' v g d h v z h t y kh kh l m m n n s ' f f ts ts k r sh t     yyy vv vy yy"),
  (0x621, "' a ' ' ' ' ' b h t th j h kh d dh r z s sh s d t z ' gh k k y y y - f q k l m n h w"),
  (0x649, "a y an un in a u i"),
  (0x660, "0 1 2 3 4 5 6 7 8 9     b q a ' ' ' ' ' ' 'u ' t t b t t p th bh dz kh ny j ts ch ch"),
  (0x688, "d d d d dh d d d d r r r r r zh r zh r sh s s s d t ng f f f v f ph q q k k g k ng k"),
  (0x6AF, "g g ng g g g l l l l n n n n n h ch h h h h w o o u u u w v y y e w e y e e  e"),
  (0x6EE, "d r 0 1 2 3 4 5 6 7 8 9 sh d gh  m h"),
  (0x750, "b b b b b b b h h d d r s ' ' ' f f k k k m m n n n l r r s h h s r h ' ' y y y w w y"),
  (0x77B, "y h s s k"),
  (0x8A0, "b b j t f q l m y y r w y ' d s g w z ' k  b p t r y f q n p t  ch k gh q j j l"),
  (0x10A0, "A B G D E V Z T I K' L M N O P' Zh R S T' U P K Gh Q' Sh Ch Ts Dz Ts' Ch' Kh J H Ey"),
  (0x10C2, "Y W Q O"),
  (0x10D0, "a b g d e v z t i k' l m n o p' zh r s t' u p k gh q' sh ch ts dz ts' ch' kh j h ey"),
  (0x10F2, "y w q o f e ' g '  n e y w"),
  (0x1C80, "v d o s t t ' e u"),
  (0x1C90, "A B G D E V Z T I K' L M N O P' Zh R S T' U P K Gh Q' Sh Ch Ts Dz Ts' Ch' Kh J H Ey"),
  (0x1CB2, "Y W Q O F E ' G '"),
  (0x1F00, "a ha a ha a ha a ha A Ha A Ha A Ha A Ha e he e he e he   E He E He E He   i hi i hi"),
  (0x1F24, "i hi i hi I Hi I Hi I Hi I Hi i hi i hi i hi i hi I Hi I Hi I Hi I Hi o ho o ho o ho"),
  (0x1F48, "O Ho O Ho O Ho   y hy y hy y hy y hy  Hy  Hy  Hy  Hy o ho o ho o ho o ho O Ho O Ho O"),
  (0x1F6D, "Ho O Ho a a e e i i i i o o y y o o   a ha a ha a ha a ha A Ha A Ha A Ha A Ha i hi i"),
  (0x1F93, "hi i hi i hi I Hi I Hi I Hi I Hi o ho o ho o ho o ho O Ho O Ho O Ho O Ho a a a a a"),
  (0x1FB6, "a a A A A A A  i    i i i  i i E E I I I    i i i i   i i I I I I     y y y y r rh y"),
  (0x1FE7, "y Y Y Y Y Rh"),
  (0x1FF2, "o o o  o o O O O O O"),
  (0x2C00, "A B V G D E Zh Dz Z I I I G K L M N O P R S T U F H O P Sht C Ch Sh ' Y ' E H Yu E E"),
  (0x2C27, "Ye O Yo Th Y A M   a b v g d e zh dz z i i i g k l m n o p r s t u f h o p sht c ch"),
  (0x2C4E, "sh ' y ' e h yu e e ye o yo th y a m"),
  (0x2C80, "A a V v G g D d E e So so Z z H h Th th I i K k L l M m N n X x O o P p R r S s T t"),
  (0x2CA8, "U u F f Kh kh Ps ps O o"),
  (0x2D00, "a b g d e v z t i k' l m n o p' zh r s t' u p k gh q' sh ch ts dz ts' ch' kh j h ey"),
  (0x2D22, "y w q o"),
  (0xA640, "Z z Dz dz Dz dz I i Dj dj U u O o ' ' Y y Ie ie Yu yu Ya ya E e O o Ie ie In in Ts"),
  (0xA661, "ts D d L l M m O o O o O o"),
  (0xA680, "Dw dw Dzw dzw Zhw zhw Ch ch Dzz dzz Tw tw Tsw tsw Tsh tsh Tj tj Tw tw H h Shw shw O"),
  (0xA699, "o O o ' '"),
  (0xFB13, "mn me mi vn mkh"),
  (0xFB1D, "yi  yya ' ' d h kh l m r t  sh sh sh sh 'a 'a ' v g d h v z  t y kh kh l  m  n s  f"),
  (0xFB44, "f  ts k r sh t vo v kh f 'l ' ' b b b b p p p p bh bh bh bh t t t t th th th th t t"),
  (0xFB68, "t t v v v v ph ph ph ph j j j j ny ny ny ny ch ch ch ch ch ch ch ch d d dh dh d d d"),
  (0xFB89, "d zh zh r r k k k k g g g g g g g g ng ng ng ng n n n n n n e e h h h h h h h h e e"),
  (0xFBB0, "e e"),
  (0xFBD3, "ng ng ng ng u u o o u u u' v v o o u u e e e e a a y' y' ye ye yw yw yu yu yo yo yu"),
  (0xFBF5, "yu ye ye ye ya ya ya y y y y yj yh ym ya yy bj bh bkh bm ba by tj th tkh tm ta ty"),
  (0xFC11, "thj thm tha thy jh jm hj hm khj khh khm sj sh skh sm sh sm dj dh dkh dm th tm zm 'j"),
  (0xFC2A, "'m ghj ghm fj fh fkh fm fa fy qh qm qa qy k' kj kh kkh kl km ka ky lj lh lkh lm la"),
  (0xFC44, "ly mj mh mkh mm ma my nj nh nkh nm na ny hj hm ha hy yj yh ykh ym ya yy dha ra aa"),
  (0xFC5E, "-un -in -a -u -i -a yr yz ym yn ya yy br bz bm bn ba by tr tz tm tn ta ty thr thz"),
  (0xFC78, "thm thn tha thy fa fy qa qy k' kl km ka ky lm la ly m' mm nr nz nm nn na ny aa yr yz"),
  (0xFC93, "ym yn ya yy yj yh ykh ym yh bj bh bkh bm bh tj th tkh tm th thm jh jm hj hm khj khm"),
  (0xFCAD, "sj sh skh sm sh skh sm dj dh dkh dm th zm 'j 'm ghj ghm fj fh fkh fm qh qm kj kh kkh"),
  (0xFCC7, "kl km lj lh lkh lm lh mj mh mkh mm nj nh nkh nm nh hj hm ha yj yh ykh ym yh ym yh bm"),
  (0xFCE2, "bh tm th thm thh sm sh shm shh kl km lm nm nh ym yh -a -u -i ta ty 'a 'y gha ghy sa"),
  (0xFCFC, "sy sha shy ha hy ja jy kha khy sa sy da dy shj shh shkh shm shr sr sr dr ta ty 'a 'y"),
  (0xFD15, "gha ghy sa sy sha shy ha hy ja jy kha khy sa sy da dy shj shh shkh shm shr sr sr dr"),
  (0xFD2D, "shj shh shkh shm sh shh tm sj sh skh shj shh shkh tm zm 'an 'an"),
  (0xFD50, "tjm thj thj thm tkhm tmj tmh tmkh jmh jmh hmy hma shj sjh sja smh smh smj smm smm"),
  (0xFD64, "shh shh smm shhm shhm shjy shmkh shmkh shmm shmm dha dkhm dkhm tmh tmh tmm tmy 'jm"),
  (0xFD76, "'mm 'mm 'ma ghmm ghmy ghma fkhm fkhm qmh qmm lhm lhy lha ljj ljj lkhm lkhm lmh lmh"),
  (0xFD89, "mhj mhm mhy mjh mjm mkhj mkhm   mjkh hmj hmm nhm nha njm njm nja nmy nma ymm ymm"),
  (0xFD9E, "bkhy tjy tja tkhy tkha tmy tma jmy jha jma skha shy shhy dhy ljy lmy yhy yjy ymy mmy"),
  (0xFDB2, "qmy nhy qmh lhm 'my kmy njh mkhy ljm kmm ljm njh jhy hjy mjy fmy bhy kmm 'jm smm"),
  (0xFDC6, "skhy njy"),
  (0xFDF0, "sle qle 'llh 'kbr mhmd sl'm rswl 'lyh wslm sla sla-'llh-'lyh-wslm jl-jl'lh ry'l"),
  (0xFE70, "-an -an -un  -in  -a -a -u -u -i -i - - - - ' ' ' ' ' w w ' ' y y y y ' ' b b b b h"),
  (0xFE94, "h t t t t th th th th j j j j h h h h kh kh kh kh d d dh dh r r z z s s s s sh sh sh"),
  (0xFEB8, "sh s s s s d d d d t t t t z z z z ' ' ' ' gh gh gh gh f f f f q q q q k k k k l l l"),
  (0xFEE0, "l m m m m n n n n h h h h w w a a y y y y l' l' l' l' l' l' l' l'"),
  (0x1EE00, "' b j d  w z h t y k l m n s ' f s q r sh t th kh dh d z gh b n f q  b j  h   h  y"),
  (0x1EE2A, "k l m n s ' f s q  sh t th kh  d  gh"),
  (0x1EE42, "j     h  y  l  n s '  s q  sh   kh  d  gh  n  q  b j  h   h t y k  m n s ' f s q"),
  (0x1EE74, "sh t th kh  d z gh b  f  ' b j d h w z h t y  l m n s ' f s q r sh t th kh dh d z"),
  (0x1EE9B, "gh"),
  (0x1EEA1, "b j d  w z h t y  l m n s ' f s q r sh t th kh dh d z gh")]

end SchemaCompiler.Text
