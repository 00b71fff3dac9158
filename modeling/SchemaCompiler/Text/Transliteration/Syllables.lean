import SchemaCompiler.Text.Transliteration.Rows

/-!
Letters of scripts in which signs stand for syllables.

* `indicRows`: the spellings of the letters of India and its neighbours, without the vowel that a
  consonant has by itself;
* `syllableRows`: the spellings of the signs of other scripts, and of digits.
-/

namespace SchemaCompiler.Text

/-- The letters of scripts in which consonants have a vowel by themselves. -/
def indicRows : List SpellingRow := [
  (0x710, "'  b g g d d h w z h t t y yh k l m n s s ' p p s q r sh t bh gh dh"),
  (0x74D, "zh kh f"),
  (0x780, "h sh n r b lh k ' v m f dh th l g ny s d z t y p j ch t h kh dh z sh s d t z ' gh q w"),
  (0x7A6, "a aa i ee u oo e ey o oa"),
  (0x7C0, "0 1 2 3 4 5 6 7 8 9 a e i e u o o ' n b p t j ch d r r s gb f k l n m ny n h w y ny j"),
  (0x7E9, "ch r"),
  (0x900, "m m m h a a a i i u u r l e e e ai o o o au k kh g gh n c ch j jh n t th d dh n t th"),
  (0x926, "d dh n n p ph b bh m y r r l l l v s s s h o o  ' a i i u u r r e e e ai o o o au  e"),
  (0x94F, "aw om     e u u q kh g z r rh f y r l l l   0 1 2 3 4 5 6 7 8 9   a o o aw u u d zh y"),
  (0x97B, "g j  d b  m m h  a a i i u u r l   e ai   o au k kh g gh n c ch j jh n t th d dh n t"),
  (0x9A5, "th d dh n  p ph b bh m y r  l    s s s h    ' a i i u u r r   e ai   o au  t"),
  (0x9DC, "r rh  y r l l l   0 1 2 3 4 5 6 7 8 9 r w Rs Tk"),
  (0x9FB, "g"),
  (0xA01, "m m h  a a i i u u     e ai   o au k kh g gh n c ch j jh n t th d dh n t th d dh n  p"),
  (0xA2B, "ph b bh m y r  l l  v s  s h     a i i u u     e ai   o au"),
  (0xA59, "kh g z r  f"),
  (0xA66, "0 1 2 3 4 5 6 7 8 9 m  i u om"),
  (0xA81, "m m h  a a i i u u r l   e ai   o au k kh g gh n c ch j jh n t th d dh n t th d dh n"),
  (0xAAA, "p ph b bh m y r  l l  v s s s h    ' a i i u u r r e  e ai o  o au    om"),
  (0xAE0, "r l l l   0 1 2 3 4 5 6 7 8 9  Rs"),
  (0xAF9, "zh"),
  (0xB01, "m m h  a a i i u u r l   e ai   o au k kh g gh n c ch j jh n t th d dh n t th d dh n"),
  (0xB2A, "p ph b bh m y r  l l  v s s s h    ' a i i u u r r   e ai   o au"),
  (0xB5C, "r rh  y r l l l   0 1 2 3 4 5 6 7 8 9  w"),
  (0xB82, "m k  a a i i u u    e e ai  o o au k    n c  j  n t    n t    n n p    m y r r l l l"),
  (0xBB5, "v s s s h     a i i u u    e e ai  o o au    om"),
  (0xBE6, "0 1 2 3 4 5 6 7 8 9"),
  (0xBF9, "Rs"),
  (0xC01, "m m h  a a i i u u r l  e e ai  o o au k kh g gh n c ch j jh n t th d dh n t th d dh"),
  (0xC28, "n  p ph b bh m y r r l l l v s s s h    ' a i i u u r r  e e ai  o o au"),
  (0xC58, "ts dz"),
  (0xC60, "r l l l   0 1 2 3 4 5 6 7 8 9"),
  (0xC81, "m m h  a a i i u u r l  e e ai  o o au k kh g gh n c ch j jh n t th d dh n t th d dh"),
  (0xCA8, "n  p ph b bh m y r r l l  v s s s h    ' a i i u u r r  e e ai  o o au"),
  (0xCDE, "f  r l l l   0 1 2 3 4 5 6 7 8 9"),
  (0xD01, "m m h  a a i i u u r l  e e ai  o o au k kh g gh n c ch j jh n t th d dh n t th d dh"),
  (0xD28, "n n p ph b bh m y r r l l l v s s s h t   ' a i i u u r r  e e ai  o o au  r"),
  (0xD54, "m y l"),
  (0xD5F, "i r l l l   0 1 2 3 4 5 6 7 8 9"),
  (0xD7A, "n n r l l k   m h  a a ae ae i i u u r r l l e e ai o o au    k kh g gh n ng c ch j"),
  (0xDA3, "jh n gn nj t th d dh n nd t th d dh n  nd p ph b bh m mb y r  l   v s s s h l f"),
  (0xDCF, "a ae ae i i u  u  r e e ai o o au l"),
  (0xDE6, "0 1 2 3 4 5 6 7 8 9   r l"),
  (0xE01, "k kh kh kh kh kh ng ch ch ch s ch y d t th th th n d t th th th n b p ph f ph f ph m"),
  (0xE22, "y r rue l lue w s s s h l o h - a a a am i i ue ue u u"),
  (0xE3F, "B e ae o ai ai a -"),
  (0xE4D, "m   0 1 2 3 4 5 6 7 8 9"),
  (0xE81, "k kh  kh  gh ng ch ch x  jh ny ny t th d dh n d t th th dh n b p ph f ph f bh m y r"),
  (0xEA5, "l  v s s s h l o h ... a a a am i i ue ue u u  o l ia   e ae o ai ai  -"),
  (0xECD, "o   0 1 2 3 4 5 6 7 8 9   hn hm kh ny"),
  (0xF00, "om"),
  (0xF20, "0 1 2 3 4 5 6 7 8 9"),
  (0xF40, "k kh g gh ng c ch j  ny t th d dh n t th d dh n p ph b bh m ts tsh dz dzh w zh z ' y"),
  (0xF62, "r l sh s s h a ks r k r     a i i u u r r l l e ai o au m h i i m m"),
  (0xF90, "k kh g gh ng c ch j  ny t th d dh n t th d dh n p ph b bh m ts tsh dz dzh w zh z ' y"),
  (0xFB2, "r l sh s s h a ks w y r"),
  (0x1000, "k kh g gh ng c ch j jh ny ny t th d dh n t th d dh n p ph b bh m y r l w s h l a a i"),
  (0x1024, "i u u e e o o a a i i u u e ai i o e m  :   y r w h s 0 1 2 3 4 5 6 7 8 9"),
  (0x1090, "0 1 2 3 4 5 6 7 8 9"),
  (0x1100, "g gg n d dd r m b bb s ss  j jj ch k t p h"),
  (0x1161, "a ae ya yae eo e yeo ye o wa wae oe yo u weo we wi yu eu yi i"),
  (0x11A8, "g gg gs n nj nh d l lg lm lb ls lt lp lh m b bs s ss ng j ch k t p h")]

/-- The signs of scripts with a sign for each syllable, and others. -/
def syllableRows : List SpellingRow := [
  (0x1200, "he hu hi ha he h ho hwa le lu li la le l lo lwe he hu hi ha he h ho hwe me mu mi ma"),
  (0x121C, "me m mo mwe se su si sa se s so swe re ru ri ra re r ro rwe se su si sa se s so swe"),
  (0x1238, "she shu shi sha she sh sho shwe ke ku ki ka ke k ko kwa kwe  kwi kwa kwe kw   ke ku"),
  (0x1252, "ki ka ke k ko  kwe  kwi kwa kwe kw   be bu bi ba be b bo bwe ve vu vi va ve v vo vwe"),
  (0x1270, "te tu ti ta te t to twe che chu chi cha che ch cho chwe khe khu khi kha khe kh kho"),
  (0x1287, "khwa khwe  khwi khwa khwe khw   ne nu ni na ne n no nwe nye nyu nyi nya nye ny nyo"),
  (0x129F, "nywe a u i a a e o wa ke ku ki ka ke k ko kwa kwe  kwi kwa kwe kw   khe khu khi kha"),
  (0x12BC, "khe kh kho  khwe  khwi khwa khwe khw   we wu wi wa we w wo wwa a u i a a e o  ze zu"),
  (0x12DA, "zi za ze z zo zwe zhe zhu zhi zha zhe zh zho zhwe ye yu yi ya ye y yo ywa de du di"),
  (0x12F3, "da de d do dwe de du di da de d do dwe je ju ji ja je j jo jwe ge gu gi ga ge g go"),
  (0x130F, "gwa gwe  gwi gwa gwe gw   ge gu gi ga ge g go gwa te tu ti ta te t to twe che chu"),
  (0x132A, "chi cha che ch cho chwe pe pu pi pa pe p po pwe tse tsu tsi tsa tse ts tso tswe tse"),
  (0x1341, "tsu tsi tsa tse ts tso tswa fe fu fi fa fe f fo fwe pe pu pi pa pe p po pwe rye mye"),
  (0x135A, "fye"),
  (0x1369, "1 2 3 4 5 6 7 8 9 10 20 30 40 50 60 70 80 90 100 10000    mwe mwi mwe mw bwe bwi bwe"),
  (0x1387, "bw fwe fwi fwe fw pwe pwi pwe pw"),
  (0x13A0, "A E I O U V Ga Ka Ge Gi Go Gu Gv Ha He Hi Ho Hu Hv La Le Li Lo Lu Lv Ma Me Mi Mo Mu"),
  (0x13BE, "Na Hna Nah Ne Ni No Nu Nv Qua Que Qui Quo Quu Quv Sa S Se Si So Su Sv Da Ta De Te Di"),
  (0x13D8, "Ti Do Du Dv Dla Tla Tle Tli Tlo Tlu Tlv Tsa Tse Tsi Tso Tsu Tsv Wa We Wi Wo Wu Wv Ya"),
  (0x13F0, "Ye Yi Yo Yu Yv Mv   ye yi yo yu yv mv    e aai i ii o oo oo ee i a aa we we wi wi"),
  (0x1410, "wii wii wo wo woo woo woo wa wa waa waa waa ai y ' t k sh s n w h h w c y l en in on"),
  (0x142E, "an pe paai pi pii po poo poo hee hi pa paa pwe pwe pwi pwi pwii pwii pwo pwo pwoo"),
  (0x1443, "pwoo pwa pwa pwaa pwaa pwaa p p h te taai ti tii to too too dee di ta taa twe twe"),
  (0x1459, "twi twi twii twii two two twoo twoo twa twa twaa twaa twaa t tte tti tto tta ke kaai"),
  (0x146D, "ki kii ko koo koo ka kaa kwe kwe kwi kwi kwii kwii kwo kwo kwoo kwoo kwa kwa kwaa"),
  (0x1481, "kwaa kwaa k kw keh kih koh kah ce caai ci cii co coo coo ca caa cwe cwe cwi cwi cwii"),
  (0x1497, "cwii cwo cwo cwoo cwoo cwa cwa cwaa cwaa cwaa c th me maai mi mii mo moo moo ma maa"),
  (0x14AC, "mwe mwe mwi mwi mwii mwii mwo mwo mwoo mwoo mwa mwa mwaa mwaa mwaa m m mh m m ne"),
  (0x14C1, "naai ni nii no noo noo na naa nwe nwe nwa nwa nwaa nwaa nwaa n ng nh le laai li lii"),
  (0x14D7, "lo loo loo la laa lwe lwe lwi lwi lwii lwii lwo lwo lwoo lwoo lwa lwa lwaa lwaa l l"),
  (0x14ED, "se saai si sii so soo soo sa saa swe swe swi swi swii swii swo swo swoo swoo swa swa"),
  (0x1502, "swaa swaa swaa s s sw s sk skw  spwa stwa skwa scwa she shi shii sho shoo sha shaa"),
  (0x1517, "shwe shwe shwi shwi shwii shwii shwo shwo shwoo shwoo shwa shwa shwaa shwaa sh ye"),
  (0x1527, "yaai yi yii yo yoo yoo ya yaa ywe ywe ywi ywi ywii ywii ywo ywo ywoo ywoo ywa ywa"),
  (0x153B, "ywaa ywaa ywaa y  y yi re re le raai ri rii ro roo lo ra raa la rwaa rwaa r r  fe"),
  (0x1554, "faai fi fii fo foo fa faa fwaa fwaa f the the thi thi thii thii tho thoo tha thaa"),
  (0x1568, "thwaa thwaa th tthe tthi ttho ttha tth tye tyi tyo tya he hi hii ho hoo ha haa h h"),
  (0x157D, "hk qaai qi qii qo qoo qa qaa q tlhe tlhi tlho tlha re ri ro ra ngaai ngi ngii ngo"),
  (0x1592, "ngoo nga ngaa ng nng she shi sho sha the thi tho tha th lhi lhii lho lhoo lha lhaa"),
  (0x15A6, "lh the thi thii tho thoo tha thaa th b e i o a we wi wo wa ne ni no na ke ki ko ka"),
  (0x15C0, "he hi ho ha ghu gho ghe ghee ghi gha ru ro re ree ri ra wu wo we wee wi wa hwu hwo"),
  (0x15D8, "hwe hwee hwi hwa thu tho the thee thi tha ttu tto tte ttee tti tta pu po pe pee pi"),
  (0x15ED, "pa p gu go ge gee gi ga khu kho khe khee khi kha kku kko kke kkee kki kka kk nu no"),
  (0x1604, "ne nee ni na mu mo me mee mi ma yu yo ye yee yi ya ju ju jo je jee ji ji ja jju jjo"),
  (0x161E, "jje jjee jji jja lu lo le lee li la dlu dlo dle dlee dli dla lhu lho lhe lhee lhi"),
  (0x1633, "lha tlhu tlho tlhe tlhee tlhi tlha tlu tlo tle tlee tli tla zu zo ze zee zi za z"),
  (0x1648, "dzu dzo dze dzee dzi dza su so se see si sa shu sho she shee shi sha sh tsu tso tse"),
  (0x165E, "tsee tsi tsa chu cho che chee chi cha ttsu ttso ttse ttsee ttsi ttsa   qai ngai nngi"),
  (0x1672, "nngii nngo nngoo nnga nngaa thwee thwi thwii thwo thwoo thwa thwaa  w  b l f s n h d"),
  (0x1688, "t c q m g ng z r a o u e i ea oi ui ia ae p"),
  (0x16A0, "f v u yr y w t eth a o a a o o o oe on r k cen k g eng g gar w h h h h n n d i e j"),
  (0x16C4, "ger ae a eoh p e s s s c z t t d b b d o e m m m l d i ing d o ear ior c c c s l s i"),
  (0x16E9, "q x"),
  (0x1700, "a i u k g n t d n p b m y r l w s h i u"),
  (0x171F, "r a i u k g n t d n p b m y r l w s h i u"),
  (0x1740, "a i u k g n t d n p b m y r l w s h i u"),
  (0x1760, "a i u k g n t d n p b m y  l w s  i u"),
  (0x1780, "k kh k kh ng ch chh ch chh nh d th d th n t th t th n b ph p ph m y r l v s s s h l"),
  (0x17A2, "' a a i i u u u ou r r l l e ai o o au   a e i oe eu o ou uo aeu eua ie e ae ai ao"),
  (0x17C5, "au am ah a"),
  (0x17DB, "R     0 1 2 3 4 5 6 7 8 9"),
  (0x1810, "0 1 2 3 4 5 6 7 8 9"),
  (0x1820, "a e i o u o u e n ng b p h g m l s x t d q j y r w f k kh ts z h zr lh zh ch"),
  (0x18B0, "oy ay aay way poy pay pwoy tay kay kway may noy nay lay soy say shoy shay shwoy yoy"),
  (0x18C4, "yay ray nwi nwi nwii nwii nwo nwo nwoo nwoo rwee rwi rwii rwo rwoo rwa p t k c m n s"),
  (0x18DB, "sh w    rwe loo laa thwe thwa tthwe tthoo tthaa tlhwe tlhoo shwe shoo hoo gwu  gaa"),
  (0x18F0, "gwa juu jwa l r"),
  (0x1901, "k kh g gh n c ch j jh yan t th d dh n p ph b bh m y r l w s s s h gyan tr  a i u e"),
  (0x1924, "ai o au e o y r w     k n  t n p m r l"),
  (0x1946, "0 1 2 3 4 5 6 7 8 9 k x n ts s y t th l p ph m f v h q kh tsh n a i e eh u o o ue e"),
  (0x196C, "aue ai"),
  (0x1980, "q q k x n k x n ts s y ts s y t th n t th n p ph m p ph m f v l f v l h d b h d b kv"),
  (0x19A7, "xv kv xv su su"),
  (0x19B1, "a i u u e ae o oa ue ay aay uy oy oay uey iy v ng n m k d b"),
  (0x19D0, "0 1 2 3 4 5 6 7 8 9"),
  (0x1A00, "k g ng ngk p b m mp t d n nr c j ny nyc y r l w s a h i u e o e     k kh kx k kx kh"),
  (0x1A26, "n c ch c s ch n rat  d  ran t th t th n b p ph f p f ph m y y r rue l lue w s s s h"),
  (0x1A4A, "l a h i i u u e o lae s r l lai  n p p m b s   a sat a a i i ue u u u o  oy e ae o"),
  (0x1A71, "ai ai"),
  (0x1A80, "0 1 2 3 4 5 6 7 8 9"),
  (0x1A90, "0 1 2 3 4 5 6 7 8 9"),
  (0x1ACC, "g r t"),
  (0x1B05, "a a i i u u r r l l e ai o o k kh g g n c c j j n t th d dh n t t d d n p p b b m y"),
  (0x1B2D, "r l w s s s h  a i i u u r r l l e e e e e e"),
  (0x1B4C, "jny    0 1 2 3 4 5 6 7 8 9"),
  (0x1B83, "a i u ae o e eu k q g n c j z n t d n p f v b m y r l w s x h"),
  (0x1BAC, "m w kh sy 0 1 2 3 4 5 6 7 8 9  reu leu bh k m a a h h h b b p p n n w w w g g j d r"),
  (0x1BD3, "r m m t t s s s y y n l l n c nd mb i u  e e e i i o o u s ng h"),
  (0x1C00, "k kl kh g gl n c ch j n t th d n p pl ph f fl b bl m ml ts tsh dz y r l h hl v s s w"),
  (0x1C23, "a y r a i o o u u e k m l n p r t  kang"),
  (0x1C40, "0 1 2 3 4 5 6 7 8 9    t th d 0 1 2 3 4 5 6 7 8 9 l at ag ang al la aak aaj aam aaw"),
  (0x1C64, "li is ih iny ir lu uc ud unn uy le ep edd en err lo ott ob ov oh"),
  (0x2801, "a  b  k  l  c i f  m s p  e  h  o  r  d j g  n t q"),
  (0x2825, "u  v"),
  (0x282D, "x"),
  (0x2835, "z     w   y"),
  (0x2D30, "a b bh g ghh j j d dh dd ddh e f k k khh h h h h ' kh kh q q i zh zh zh l m n gn ng"),
  (0x2D52, "p u r rr gh gh gh s ss sh t th ch tt v w y z z zz ye o"),
  (0x2D6F, "w"),
  (0x2D80, "lwa mwa rwa swa shwa bwa twa chwa nwa nywa wa zwa dwa dwa jwa twa chwa pwa pwa gwe"),
  (0x2D94, "gwi gwe gw"),
  (0x2DA0, "sse ssu ssi ssa sse ss sso  cce ccu cci cca cce cc cco  zze zzu zzi zza zze zz zzo"),
  (0x2DB8, "che chu chi cha che ch cho  qye qyu qyi qya qye qy qyo  kye kyu kyi kya kye ky kyo"),
  (0x2DD0, "xye xyu xyi xya xye xy xyo  gye gyu gyi gya gye gy gyo"),
  (0x2E9F, "Mu"),
  (0x2EF3, "Gui"),
  (0x2F00, "Yi Gun Zhu Pie Yi Jue Er Tou Ren Er Ru Ba Jiong Mi Bing Ji Qian Dao Li Bao Bi Fang"),
  (0x2F16, "Xi Shi Bo Jie Chang Si You Kou Wei Tu Shi Zhi Sui Xi Da Nu Zi Mian Cun Xiao Wang Shi"),
  (0x2F2C, "Che Shan Chuan Gong Ji Jin Gan Yao Guang Yin Gong Yi Gong Ji Shan Chi Xin Ge Hu Shou"),
  (0x2F40, "Zhi Pu Wen Dou Jin Fang Wu Ri Yue Yue Mu Qian Zhi Dai Shu Wu Bi Mao Shi Qi Shui Huo"),
  (0x2F56, "Zhao Fu Yao Pan Pian Ya Niu Quan Xuan Yu Gua Wa Gan Sheng Yong Tian Pi Ne Bo Bai Pi"),
  (0x2F6B, "Min Mu Mao Shi Shi Shi Rou He Xue Li Zhu Mi Mi Fou Wang Yang Yu Lao Er Lei Er Yu Rou"),
  (0x2F82, "Chen Zi Zhi Jiu She Chuan Zhou Gen Se Cao Hu Chong Xue Xing Yi Ya Jian Jiao Yan Gu"),
  (0x2F96, "Dou Shi Zhi Bei Chi Zou Zu Shen Che Xin Chen Chuo Yi You Bian Li Jin Zhang Men Fu Li"),
  (0x2FAB, "Zhui Yu Qing Fei Mian Ge Wei Jiu Yin Ye Feng Fei Shi Shou Xiang Ma Gu Gao Biao Dou"),
  (0x2FBF, "Chang Ge Gui Yu Niao Lu Lu Mai Ma Huang Shu Hei Zhi Mian Ding Gu Shu Bi Qi Chi Long"),
  (0x2FD4, "Gui Yue"),
  (0x3041, "a a i i u u e e o o ka ga ki gi ku gu ke ge ko go sa za shi ji su zu se ze so zo ta"),
  (0x3060, "da chi ji t tsu zu te de to do na ni nu ne no ha ba pa hi bi pi fu bu pu he be pe ho"),
  (0x307C, "bo po ma mi mu me mo ya ya yu yu yo yo ra ri ru re ro wa wa wi we wo n vu ka ke"),
  (0x309D, "\" \" yori  a a i i u u e e o o ka ga ki gi ku gu ke ge ko go sa za shi ji su zu se"),
  (0x30BC, "ze so zo ta da chi ji t tsu zu te de to do na ni nu ne no ha ba pa hi bi pi fu bu pu"),
  (0x30D8, "he be pe ho bo po ma mi mu me mo ya ya yu yu yo yo ra ri ru re ro wa wa wi we wo n"),
  (0x30F4, "vu ka ke va vi ve vo  - \" \" koto"),
  (0x3105, "b p m f d t n l g k h j q x zh ch sh r z c s a o e e ai ei ao ou an en ang eng er i"),
  (0x3128, "u yu v ng gn i o n  g gg gs n nj nh d dd r lg lm lb ls lt lp lh m b bb bs s ss ng j"),
  (0x3149, "jj ch k t p h a ae ya yae eo e yeo ye o wa wae oe yo u weo we wi yu eu yi i"),
  (0x3192, "Yi Er San Si Shang Zhong Xia Jia Yi Bing Ding Tian De Ren bu zi ji gu ee enn oo onn"),
  (0x31A8, "ir ann inn unn im ngg ainn aunn am om ong innn p t k h gh lh zy g gw kw oe ah"),
  (0x31F0, "ku shi su to nu ha hi fu he ho mu ra ri ru re ro"),
  (0xA000, "it ix i ip iet iex ie iep at ax a ap uox uo uop ot ox o op ex e wu bit bix bi bip"),
  (0xA01A, "biet biex bie biep bat bax ba bap buox buo buop bot box bo bop bex be bep but bux bu"),
  (0xA02F, "bup burx bur byt byx by byp byrx byr pit pix pi pip piex pie piep pat pax pa pap"),
  (0xA043, "puox puo puop pot pox po pop put pux pu pup purx pur pyt pyx py pyp pyrx pyr bbit"),
  (0xA057, "bbix bbi bbip bbiet bbiex bbie bbiep bbat bbax bba bbap bbuox bbuo bbuop bbot bbox"),
  (0xA067, "bbo bbop bbex bbe bbep bbut bbux bbu bbup bburx bbur bbyt bbyx bby bbyp nbit nbix"),
  (0xA078, "nbi nbip nbiex nbie nbiep nbat nbax nba nbap nbot nbox nbo nbop nbut nbux nbu nbup"),
  (0xA089, "nburx nbur nbyt nbyx nby nbyp nbyrx nbyr hmit hmix hmi hmip hmiex hmie hmiep hmat"),
  (0xA099, "hmax hma hmap hmuox hmuo hmuop hmot hmox hmo hmop hmut hmux hmu hmup hmurx hmur hmyx"),
  (0xA0AA, "hmy hmyp hmyrx hmyr mit mix mi mip miex mie miep mat max ma map muot muox muo muop"),
  (0xA0BD, "mot mox mo mop mex me mut mux mu mup murx mur myt myx my myp fit fix fi fip fat fax"),
  (0xA0D3, "fa fap fox fo fop fut fux fu fup furx fur fyt fyx fy fyp vit vix vi vip viet viex"),
  (0xA0E8, "vie viep vat vax va vap vot vox vo vop vex vep vut vux vu vup vurx vur vyt vyx vy"),
  (0xA0FD, "vyp vyrx vyr dit dix di dip diex die diep dat dax da dap duox duo dot dox do dop dex"),
  (0xA112, "de dep dut dux du dup durx dur tit tix ti tip tiex tie tiep tat tax ta tap tuot tuox"),
  (0xA127, "tuo tuop tot tox to top tex te tep tut tux tu tup turx tur ddit ddix ddi ddip ddiex"),
  (0xA13B, "ddie ddiep ddat ddax dda ddap dduox dduo dduop ddot ddox ddo ddop ddex dde ddep ddut"),
  (0xA14C, "ddux ddu ddup ddurx ddur ndit ndix ndi ndip ndiex ndie ndat ndax nda ndap ndot ndox"),
  (0xA15D, "ndo ndop ndex nde ndep ndut ndux ndu ndup ndurx ndur hnit hnix hni hnip hniet hniex"),
  (0xA16E, "hnie hniep hnat hnax hna hnap hnuox hnuo hnot hnox hnop hnex hne hnep hnut nit nix"),
  (0xA17F, "ni nip niex nie niep nax na nap nuox nuo nuop not nox no nop nex ne nep nut nux nu"),
  (0xA194, "nup nurx nur hlit hlix hli hlip hliex hlie hliep hlat hlax hla hlap hluox hluo hluop"),
  (0xA1A5, "hlox hlo hlop hlex hle hlep hlut hlux hlu hlup hlurx hlur hlyt hlyx hly hlyp hlyrx"),
  (0xA1B6, "hlyr lit lix li lip liet liex lie liep lat lax la lap luot luox luo luop lot lox lo"),
  (0xA1CA, "lop lex le lep lut lux lu lup lurx lur lyt lyx ly lyp lyrx lyr git gix gi gip giet"),
  (0xA1DF, "giex gie giep gat gax ga gap guot guox guo guop got gox go gop get gex ge gep gut"),
  (0xA1F3, "gux gu gup gurx gur kit kix ki kip kiex kie kiep kat kax ka kap kuox kuo kuop kot"),
  (0xA207, "kox ko kop ket kex ke kep kut kux ku kup kurx kur ggit ggix ggi ggiex ggie ggiep"),
  (0xA21A, "ggat ggax gga ggap gguot gguox gguo gguop ggot ggox ggo ggop gget ggex gge ggep ggut"),
  (0xA22B, "ggux ggu ggup ggurx ggur mgiex mgie mgat mgax mga mgap mguox mguo mguop mgot mgox"),
  (0xA23B, "mgo mgop mgex mge mgep mgut mgux mgu mgup mgurx mgur hxit hxix hxi hxip hxiet hxiex"),
  (0xA24C, "hxie hxiep hxat hxax hxa hxap hxuot hxuox hxuo hxuop hxot hxox hxo hxop hxex hxe"),
  (0xA25C, "hxep ngiex ngie ngiep ngat ngax nga ngap nguot nguox nguo ngot ngox ngo ngop ngex"),
  (0xA26C, "nge ngep hit hiex hie hat hax ha hap huot huox huo huop hot hox ho hop hex he hep"),
  (0xA280, "wat wax wa wap wuox wuo wuop wox wo wop wex we wep zit zix zi zip ziex zie ziep zat"),
  (0xA295, "zax za zap zuox zuo zuop zot zox zo zop zex ze zep zut zux zu zup zurx zur zyt zyx"),
  (0xA2AA, "zy zyp zyrx zyr cit cix ci cip ciet ciex cie ciep cat cax ca cap cuox cuo cuop cot"),
  (0xA2BE, "cox co cop cex ce cep cut cux cu cup curx cur cyt cyx cy cyp cyrx cyr zzit zzix zzi"),
  (0xA2D3, "zzip zziet zziex zzie zziep zzat zzax zza zzap zzox zzo zzop zzex zze zzep zzux zzu"),
  (0xA2E4, "zzup zzurx zzur zzyt zzyx zzy zzyp zzyrx zzyr nzit nzix nzi nzip nziex nzie nziep"),
  (0xA2F4, "nzat nzax nza nzap nzuox nzuo nzox nzop nzex nze nzux nzu nzup nzurx nzur nzyt nzyx"),
  (0xA305, "nzy nzyp nzyrx nzyr sit six si sip siex sie siep sat sax sa sap suox suo suop sot"),
  (0xA318, "sox so sop sex se sep sut sux su sup surx sur syt syx sy syp syrx syr ssit ssix ssi"),
  (0xA32D, "ssip ssiex ssie ssiep ssat ssax ssa ssap ssot ssox sso ssop ssex sse ssep ssut ssux"),
  (0xA33E, "ssu ssup ssyt ssyx ssy ssyp ssyrx ssyr zhat zhax zha zhap zhuox zhuo zhuop zhot zhox"),
  (0xA34F, "zho zhop zhet zhex zhe zhep zhut zhux zhu zhup zhurx zhur zhyt zhyx zhy zhyp zhyrx"),
  (0xA360, "zhyr chat chax cha chap chuot chuox chuo chuop chot chox cho chop chet chex che chep"),
  (0xA371, "chux chu chup churx chur chyt chyx chy chyp chyrx chyr rrax rra rruox rruo rrot rrox"),
  (0xA382, "rro rrop rret rrex rre rrep rrut rrux rru rrup rrurx rrur rryt rryx rry rryp rryrx"),
  (0xA393, "rryr nrat nrax nra nrap nrox nro nrop nret nrex nre nrep nrut nrux nru nrup nrurx"),
  (0xA3A4, "nrur nryt nryx nry nryp nryrx nryr shat shax sha shap shuox shuo shuop shot shox sho"),
  (0xA3B5, "shop shet shex she shep shut shux shu shup shurx shur shyt shyx shy shyp shyrx shyr"),
  (0xA3C6, "rat rax ra rap ruox ruo ruop rot rox ro rop rex re rep rut rux ru rup rurx rur ryt"),
  (0xA3DB, "ryx ry ryp ryrx ryr jit jix ji jip jiet jiex jie jiep juot juox juo juop jot jox jo"),
  (0xA3EF, "jop jut jux ju jup jurx jur jyt jyx jy jyp jyrx jyr qit qix qi qip qiet qiex qie"),
  (0xA403, "qiep quot quox quo quop qot qox qo qop qut qux qu qup qurx qur qyt qyx qy qyp qyrx"),
  (0xA417, "qyr jjit jjix jji jjip jjiet jjiex jjie jjiep jjuox jjuo jjuop jjot jjox jjo jjop"),
  (0xA427, "jjut jjux jju jjup jjurx jjur jjyt jjyx jjy jjyp njit njix nji njip njiet njiex njie"),
  (0xA438, "njiep njuox njuo njot njox njo njop njux nju njup njurx njur njyt njyx njy njyp"),
  (0xA448, "njyrx njyr nyit nyix nyi nyip nyiet nyiex nyie nyiep nyuox nyuo nyuop nyot nyox nyo"),
  (0xA458, "nyop nyut nyux nyu nyup xit xix xi xip xiet xiex xie xiep xuox xuo xot xox xo xop"),
  (0xA46B, "xyt xyx xy xyp xyrx xyr yit yix yi yip yiet yiex yie yiep yuot yuox yuo yuop yot yox"),
  (0xA47F, "yo yop yut yux yu yup yurx yur yyt yyx yy yyp yyrx yyr"),
  (0xA4D0, "B P PH D T TH G K KH J C CH DZ TS TSH M N L S ZH Z NG H X HHA F W SH Y GHA A AE E EU"),
  (0xA4F2, "I O U UE UH OE ' ' ' ' ' '   ee een hee wee ween pee bhee bee mbee kpee mgbee gbee"),
  (0xA50C, "fee vee tee thee dhee dhhee lee ree dee ndee see shee zee zhee cee jee njee yee kee"),
  (0xA51F, "nggee gee mee nee nyee i in hi hin wi win pi bhi bi mbi kpi mgbi gbi fi vi ti thi"),
  (0xA535, "dhi dhhi li ri di ndi si shi zi zhi ci ji nji yi ki nggi gi mi ni nyi a an ngan ha"),
  (0xA54D, "han wa wan pa bha ba mba kpa kpan mgba gba fa va ta tha dha dhha la ra da nda sa sha"),
  (0xA564, "za zha ca ja nja ya ka kan ngga ga ma na nya oo oon hoo woo woon poo bhoo boo mboo"),
  (0xA57A, "kpoo mgboo gboo foo voo too thoo dhoo dhhoo loo roo doo ndoo soo shoo zoo zhoo coo"),
  (0xA58C, "joo njoo yoo koo nggoo goo moo noo nyoo u un hu hun wu wun pu bhu bu mbu kpu mgbu"),
  (0xA5A1, "gbu fu vu tu thu dhu dhhu lu ru du ndu su shu zu zhu cu ju nju yu ku nggu gu mu nu"),
  (0xA5B9, "nyu o on ngon ho hon wo won po bho bo mbo kpo mgbo gbo gbon fo vo to tho dho dhho lo"),
  (0xA5D0, "ro do ndo so sho zo zho co jo njo yo ko nggo go mo no nyo e en ngen he hen we wen pe"),
  (0xA5E9, "bhe be mbe kpe kpen mgbe gbe gben fe ve te the dhe dhhe le re de nde se she ze zhe"),
  (0xA5FF, "ce je nje ye ke ngge nggen ge gen me ne nye ng lengthener"),
  (0xA620, "0 1 2 3 4 5 6 7 8 9"),
  (0xA800, "a i  u e o  ko kho go gho  co cho jo jho tto ttho ddo ddho to tho do dho no po pho"),
  (0xA81B, "bo bho mo ro lo rro so ho a i u e o"),
  (0xA840, "k kh g n c ch j n t th d n p ph b m ts tsh dz w zh z a y r l s s h a i u e o q x f g"),
  (0xA866, "e w y t th d n y s h f r r"),
  (0xA882, "a a i i u u r r l l e e ai o o au k kh g gh n c ch j jh n t th d dh n t th d dh n p"),
  (0xA8A7, "ph b bh m y r l v s s s h l  a i i u u r r l l e e ai o o au"),
  (0xA8D0, "0 1 2 3 4 5 6 7 8 9"),
  (0xA8EA, "a u k n p r vi   m  m m m"),
  (0xA8FE, "ay ay 0 1 2 3 4 5 6 7 8 9 k kh g n s s z n t ht n p ph m d b r y l w th h v c a o i"),
  (0xA925, "o ue e u e o"),
  (0xA930, "k g n t d n p b m c j n s r l y w h mb ngg nd nyj a i u e ai o au eu ea ng n r h"),
  (0xA984, "a kawi i i u p n n e ai o k k k g g n c c j n jh n t th d dh n t t d dh n p p b b m"),
  (0xA9AA, "y r r l w s sh s h  a  i i u u e mure e"),
  (0xA9D0, "0 1 2 3 4 5 6 7 8 9"),
  (0xA9E0, "gh ch jh n bh   n f g gh j jh d dh n 0 1 2 3 4 5 6 7 8 9 l d dh b bh  a i u e ai o k"),
  (0xAA07, "kh g gh ngue n ch chh j jh nhue nh nhj t th d dh nue n d p pp ph b bh mue m b y r l"),
  (0xAA25, "v s s h a i i ei u o o ai au ue y r l w"),
  (0xAA40, "k g ng ng ch t n p y r l ss m h   0 1 2 3 4 5 6 7 8 9"),
  (0xAA60, "g c ch j jh n t th d dh dh n s h hh f  x z r"),
  (0xAA7A, "r    ch s ko ko kho kho khho khho go go ngo ngo co co cho cho so so nyo nyo do do to"),
  (0xAA95, "to tho tho no no bo bo po po pho pho fo fo mo mo yo yo ro ro lo lo vo vo ho ho o o"),
  (0xAAB1, "a i ue u e o  ia ue ua aue ay an am"),
  (0xAAE0, "e o ch n t th d dh n s s i u aai au aau    mark"),
  (0xAB01, "tthu tthi ttha tthe tth ttho   ddhu ddhi ddha ddhe ddh ddho   dzu dzi dza dze dz dzo"),
  (0xAB20, "che chu chi cha che ch cho  bbe bbu bbi bba bbe bb bbo"),
  (0xAB70, "a e i o u v ga ka ge gi go gu gv ha he hi ho hu hv la le li lo lu lv ma me mi mo mu"),
  (0xAB8E, "na hna nah ne ni no nu nv qua que qui quo quu quv sa s se si so su sv da ta de te di"),
  (0xABA8, "ti do du dv dla tla tle tli tlo tlu tlv tsa tse tsi tso tsu tsv wa we wi wo wu wv ya"),
  (0xABC0, "k s l m p n ch t kh ng th w y h u i ph a g jh r b j d gh dh bh k l m   t ng  onap"),
  (0xABE4, "inap anap   unap  nung"),
  (0xABF0, "0 1 2 3 4 5 6 7 8 9"),
  (0xF900, "Qi Geng Che Jia Hua Chuan Ju Gui Gui Qi Jin La Nai Lan Lai Luo Luo Luo Luo Luo Le"),
  (0xF915, "Luo Lao Luo Luo Lao Luo Luan Luan Lan Lan Lan Luan Lan Lan Lan Lan La La La Lang"),
  (0xF929, "Lang Lang Lang Lang Lai Leng Lao Lu Lu Lu Lu Lao Lu Lu Lu Lu Lu Lu Lu Lu Lu Lu Lu Lu"),
  (0xF941, "Lun Long Nong Long Long Lao Lei Lu Lei Lei Lu Lou Lei Lou Lei Lu Lou Lei Lei Lin"),
  (0xF955, "Ling Leng Ling Ling Ling Du Na Le Nuo Dan Ning Nu Lu Yi Bei Pan Bian Fu Bu Mi Shu"),
  (0xF96A, "Suo Can Sai Sheng Ye Shuo Sha Chen Shen Shi Ruo Lue Lue Liang Liang Liang Liang"),
  (0xF97B, "Liang Liang Liang Liang Li Lu Nu Lu Lu Lu Li Lu Li Li Li Li Li Li Li Nian Lian Lian"),
  (0xF991, "Nian Lian Lian Lian Nian Lian Lian Nian Lian Lian Lian Lie Lie Yan Lie Lie Shuo Lian"),
  (0xF9A3, "Nian Nian Lian Lian Lie Ling Ling Ning Ling Lian Ling Ying Ling Ling Ling Ling Ling"),
  (0xF9B4, "Ling Li Li Li Li E Le Liao Liao Niao Liao Le Liao Liao Liao Liao Long Yun Ruan Liu"),
  (0xF9C8, "Chou Liu Liu Liu Liu Liu Liu Niu Lei Liu Lu Lu Lun Lun Lun Lun Lu Li Li Lu Long Li"),
  (0xF9DE, "Li Lu Yi Li Li Ni Li Li Li Li Li Li Li Ni Ni Lin Lin Lin Lin Lin Lin Lin Lin Lin Lin"),
  (0xF9F7, "Li Li Li Zhuang Zhi Shi Shen Cha Ci Qie Du Ta Tang Zhai Dong Bao Fu Xing Jiang Jian"),
  (0xFA0B, "Kuo Wu Hu   Zhong  Qing   Xi Zhu Yi Li Shen Xiang Fu Jing Jing Yu  Qiu  Zhu   Yi Dou"),
  (0xFA2A, "Fan Si Guan He Lang Li Wu Seng Mian Mian Qin Bei He Tan Qi Ping Mo Ceng Che Hui Kai"),
  (0xFA3F, "Zeng Cheng Min Ji Shu Mei Hai Zhu Han Zhu Zhao Zuo Bei She Zhi Qi You Zu Zhu Huo"),
  (0xFA53, "Zhen Gu Tu Jie Lian Jin Fan Shu Zhe Chou Cao Cao Zhu He Shi Ye Jin Bin Zeng Chuo Yi"),
  (0xFA68, "Nan Xiang Pin Hui  Guan   Bing Kuang Quan Xing Chong Ji Yong Shao He Tao Hui Wa"),
  (0xFA7C, "Zhong Fen Yan Ben Bi Ci Ao Yi Cai Yao Wang Shen Yu Zeng Ao Cheng Dai Yu Sou Bing Ao"),
  (0xFA91, "Qing Lang Wang Zhang Dai Sha Liu Yin Zi Han Jing Zhu Qiao Jue Fan Zhu Tian Ci Hua"),
  (0xFAA4, "Guan Wen Yi Sheng Zhi Juan Zhe Tian Tiao Jie Lei Tao Lian Ping Zhe Huang Hua Yun"),
  (0xFAB6, "Qiang Fu Shi Diao Zhu Qing Ye Nuo Yu Jin Bian Zeng Shu Chi Sou Xing Zhu Nan Jing Bai"),
  (0xFACA, "Xiang E Pin Zhen Gui    He Xie Jie  Qian Beng E Pang"),
  (0xFF66, "wo a i u e o ya yu yo t - a i u e o ka ki ku ke ko sa shi su se so ta chi tsu te to"),
  (0xFF85, "na ni nu ne no ha hi fu he ho ma mi mu me mo ya yu yo ra ri ru re ro wa n    g gg gs"),
  (0xFFA4, "n nj nh d dd r lg lm lb ls lt lp  m b bb  s ss  j jj ch k t p h    a ae ya yae eo e"),
  (0xFFCA, "yeo ye o wa wae oe   yo u weo we wi yu   eu yi i    c GBP    Y W"),
  (0x104A0, "0 1 2 3 4 5 6 7 8 9"),
  (0x10D30, "0 1 2 3 4 5 6 7 8 9"),
  (0x11066, "0 1 2 3 4 5 6 7 8 9"),
  (0x110F0, "0 1 2 3 4 5 6 7 8 9"),
  (0x11136, "0 1 2 3 4 5 6 7 8 9"),
  (0x111D0, "0 1 2 3 4 5 6 7 8 9"),
  (0x112F0, "0 1 2 3 4 5 6 7 8 9"),
  (0x11450, "0 1 2 3 4 5 6 7 8 9"),
  (0x114D0, "0 1 2 3 4 5 6 7 8 9"),
  (0x11650, "0 1 2 3 4 5 6 7 8 9"),
  (0x116C0, "0 1 2 3 4 5 6 7 8 9"),
  (0x11730, "0 1 2 3 4 5 6 7 8 9"),
  (0x118E0, "0 1 2 3 4 5 6 7 8 9"),
  (0x11950, "0 1 2 3 4 5 6 7 8 9"),
  (0x11C50, "0 1 2 3 4 5 6 7 8 9"),
  (0x11D50, "0 1 2 3 4 5 6 7 8 9"),
  (0x11DA0, "0 1 2 3 4 5 6 7 8 9"),
  (0x11F50, "0 1 2 3 4 5 6 7 8 9"),
  (0x16A60, "0 1 2 3 4 5 6 7 8 9"),
  (0x16AC0, "0 1 2 3 4 5 6 7 8 9"),
  (0x16B50, "0 1 2 3 4 5 6 7 8 9"),
  (0x1E140, "0 1 2 3 4 5 6 7 8 9"),
  (0x1E2F0, "0 1 2 3 4 5 6 7 8 9"),
  (0x1E4F0, "0 1 2 3 4 5 6 7 8 9"),
  (0x1E950, "0 1 2 3 4 5 6 7 8 9")]

end SchemaCompiler.Text
