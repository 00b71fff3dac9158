import SchemaCompiler.Text.Transliteration.Rows

/-!
Latin letters with marks and of other forms.

* `latinRows`: the spellings of such letters.
-/

namespace SchemaCompiler.Text

/-- Latin letters, and the signs that are written like letters. -/
def latinRows : List SpellingRow := [
  (0x4B, "K"),
  (0xA2, "c GBP  Y  S  (C) a    (R)  deg  2 3  u P   1 o  1/4 1/2 3/4  A A A A A A AE C E E E E"),
  (0xCC, "I I I I D N O O O O O  O U U U U Y Th ss a a a a a a ae c e e e e i i i i d n o o o o"),
  (0xF6, "o  o u u u u y th y A a A a A a C c C c C c C c D d D d E e E e E e E e E e G g G g G"),
  (0x121, "g G g H h H h I i I i I i I i I i IJ ij J j K k q L l L l L l L l L l N n N n N n 'n"),
  (0x14A, "NG ng O o O o O o OE oe R r R r R r S s S s S s S s T t T t T t U u U u U u U u U u U"),
  (0x173, "u W w Y y Y Z z Z z Z z s b B B b 6 6 O C c D D D d d E E E F f G Gh hv I I K k l l M"),
  (0x19D, "N n O O o Gh gh P p R S s Sh sh t T t T U u U V Y y Z z Zh Zh zh zh 2 5 5 ts w | || !"),
  (0x1C3, "! DZ Dz dz LJ Lj lj NJ Nj nj A a I i O o U u U u U u U u U u e A a A a AE ae G g G g"),
  (0x1E8, "K k O o O o Zh zh j DZ Dz dz G g Hv W N n A a AE ae O o A a A a E e E e I i I i O o O"),
  (0x20F, "o R r R r U u U u S s T t Gh gh H h N d Ou ou Z z A a E e O o O o O o O o Y y l n t j"),
  (0x238, "db qp A C c L T s z ' ' B U V E e J j Q q R r Y y a a a b o c d d e e er e e er e j g"),
  (0x261, "g g gh o h h h i i i l l l lzh m w m n n n o OE o f r r r r r r r r r s sh j sh sh t"),
  (0x288, "t u u v v w y y z z zh zh ' ' ' ! o b e g h j k l q ' ' dz j dz ts ch tc fng ls lz w"),
  (0x2AD, "' h h h h j r r r r w y ' ' ' ' ' ' ' ' '     ' ' ' ' ' ' ' ' ' ' ' '"),
  (0x2E0, "gh l s x '"),
  (0x345, "i"),
  (0x1D00, "a AE ae b c d D e e i j k l m n o O o o o oe Ou o o p r r t u u u m v w z Zh   g l p"),
  (0x1D29, "r ps l A AE B B D E E G H I J K L M N N O Ou P R T U W a a a ae b d e e e e g i k m"),
  (0x1D51, "ng o o o o p t u u m v  v g d f ch i r u v v g r f ch ue b d f m n p r r s t z g n g"),
  (0x1D7A, "th i i p u u b d f g k l m n p r s sh v x z a a d e e e e i o sh u zh a c c d e f j"),
  (0x1DA2, "g h i i i i j l l l m w n n n o f s sh t u u u v v z z z zh th"),
  (0x1E00, "A a B b B b B b C c D d D d D d D d D d E e E e E e E e E e F f G g H h H h H h H h"),
  (0x1E2A, "H h I i I i K k K k K k L l L l L l L l M m M m M m N n N n N n N n O o O o O o O o"),
  (0x1E54, "P p P p R r R r R r R r S s S s S s S s S s T t T t T t T t U u U u U u U u U u V v"),
  (0x1E7E, "V v W w W w W w W w W w X x X x Y y Z z Z z Z z h t w y a' s s s SS d A a A a A a A"),
  (0x1EA7, "a A a A a A a A a A a A a A a A a E e E e E e E e E e E e E e E e I i I i O o O o O"),
  (0x1ED1, "o O o O o O o O o O o O o O o O o O o U u U u U u U u U u U u U u Y y Y y Y y Y y LL"),
  (0x1EFB, "ll V v Y y"),
  (0x212A, "K A"),
  (0x2C60, "L l L P R a t H h K k Z z A M A A v W w v H h ph e r o e j V S Z"),
  (0xA722, "' ' ' ' H h TZ tz 3 3 4 4 4 4 f s AA aa AO ao AU au AV av AV av AY ay C c K k K k K"),
  (0xA745, "k L l L l O o O o OO oo P p P p P p Q q Q q R r Rum rum V v VY vy Z z Th th Th th V"),
  (0xA769, "v Et et Is is Con con con dum lum mum num rum rum tum um D d F f G G g L l R r S s T"),
  (0xA787, "t    ' ' H l  N n C c c h B b F f AE ae OE oe UE ue G g K k N n R r S s H E G L I q"),
  (0xA7B0, "K T J Ch B b O o U u"),
  (0xA7C4, "C S Z D d S s"),
  (0xA7D0, "G g     S s S s"),
  (0xA7F2, "C F Q H h  H oe W F P M I M"),
  (0xAB32, "e e e f g l l l m n ng o o o oe oe oe   r r  r r  r r esh u leg ui ui u ch ch ch x x"),
  (0xAB58, "x x y  h l l u ia ie oe uo   dz ts r w tack tack"),
  (0xFB00, "ff fi fl ffi ffl st st")]

end SchemaCompiler.Text
