import SchemaCompiler.Text.Transliteration.Rows

/-!
Signs that stand for letters, numbers or words.

* `signRows`: the spellings of such signs.
-/

namespace SchemaCompiler.Text

/-- Signs of money, measures and mathematics, numbers in circles, and letters of other styles. -/
def signRows : List SpellingRow := [
  (0x2070, "0 i   4 5 6 7 8 9"),
  (0x207F, "n 0 1 2 3 4 5 6 7 8 9"),
  (0x2090, "a e o x e h k l m n p s t    CE C Cr F L m N Pts Rs W NS D EUR K T Dr Pf P G A UAH C"),
  (0x20B6, "L Sm T Rs TL M AZN RUB GEL BTC"),
  (0x2100, "a/c a/s C C CL c/o c/u E s F g H H H h h I I L l lb N No (P) p P Q R R R Rx R SM TEL"),
  (0x2122, "TM V Z oz O mho Z i   B C e e E F F M o A B G D i Q FAX p g G P S G L L Y D d e i j"),
  (0x214D, "A/S f L 1/7 1/9 1/10 1/3 2/3 1/5 2/5 3/5 4/5 1/6 5/6 1/8 3/8 5/8 7/8 1/ I II III IV"),
  (0x2164, "V VI VII VIII IX X XI XII L C D M i ii iii iv v vi vii viii ix x xi xii l c d m 1000"),
  (0x2181, "5000 10000 C c 6 50 50000 100000 0/3"),
  (0x2202, "d   O D  E E"),
  (0x220F, "P P S"),
  (0x221A, "V V V  oo"),
  (0x2228, "v n U S SS SSS S SS SSS"),
  (0x2460, "1 2 3 4 5 6 7 8 9 10 11 12 13 14 15 16 17 18 19 20 (1) (2) (3) (4) (5) (6) (7) (8)"),
  (0x247C, "(9) (10) (11) (12) (13) (14) (15) (16) (17) (18) (19) (20) 1. 2. 3. 4. 5. 6. 7. 8."),
  (0x2490, "9. 10. 11. 12. 13. 14. 15. 16. 17. 18. 19. 20. (a) (b) (c) (d) (e) (f) (g) (h) (i)"),
  (0x24A5, "(j) (k) (l) (m) (n) (o) (p) (q) (r) (s) (t) (u) (v) (w) (x) (y) (z) A B C D E F G H"),
  (0x24BE, "I J K L M N O P Q R S T U V W X Y Z a b c d e f g h i j k l m n o p q r s t u v w x"),
  (0x24E8, "y z 0 11 12 13 14 15 16 17 18 19 20 1 2 3 4 5 6 7 8 9 10 0"),
  (0x2654, "K Q R B N P K Q R B N P"),
  (0x266D, "b"),
  (0x2680, "1 2 3 4 5 6"),
  (0x26CC, "X"),
  (0x2713, "v V x X x X"),
  (0x2776, "1 2 3 4 5 6 7 8 9 10 1 2 3 4 5 6 7 8 9 10 1 2 3 4 5 6 7 8 9 10"),
  (0x2A0C, "SSSS"),
  (0x3038, "Shi Nian Sa"),
  (0x3200, "(g) (n) (d) (r) (m) (b) (s)  (j) (ch) (k) (t) (p) (h) (ga) (na) (da) (ra) (ma) (ba)"),
  (0x3214, "(sa) (a) (ja) (cha) (ka) (ta) (pa) (ha) (ju) (ojeon) (ohu)  (Yi) (Er) (San) (Si)"),
  (0x3224, "(Wu) (Liu) (Qi) (Ba) (Jiu) (Shi) (Yue) (Huo) (Shui) (Mu) (Jin) (Tu) (Ri) (Zhu) (You)"),
  (0x3233, "(She) (Ming) (Te) (Cai) (Zhu) (Lao) (Dai) (Hu) (Xue) (Jian) (Qi) (Zi) (Xie) (Ji)"),
  (0x3241, "(Xiu) (Zi) (Zhi) Wen You Wen Zheng 10 20 30 40 50 60 70 80 PTE 21 22 23 24 25 26 27"),
  (0x3258, "28 29 30 31 32 33 34 35 g n d r m b s  j ch k t p h ga na da ra ma ba sa a ja cha ka"),
  (0x3279, "ta pa ha chamgo juyi u  Yi Er San Si Wu Liu Qi Ba Jiu Shi Yue Huo Shui Mu Jin Tu Ri"),
  (0x3291, "Zhu You She Ming Te Cai Zhu Lao Mi Nan Nu Shi You Yin Zhu Xiang Xiu Xie Zheng Shang"),
  (0x32A5, "Zhong Xia Zuo You Yi Zong Xue Jian Qi Zi Xie Ye 36 37 38 39 40 41 42 43 44 45 46 47"),
  (0x32BD, "48 49 50 1Yue 2Yue 3Yue 4Yue 5Yue 6Yue 7Yue 8Yue 9Yue 10Yue 11Yue 12Yue Hg erg eV"),
  (0x32CF, "LTD a i u e o ka ki ku ke ko sa shi su se so ta chi tsu te to na ni nu ne no ha hi"),
  (0x32EB, "fu he ho ma mi mu me mo ya yu yo ra ri ru re ro wa wi we wo LingHe aha-to arufua"),
  (0x3302, "anhea a-ru ininku inchi uon esuku-to e-ka- onsu o-mu kairi karatto karori- karon"),
  (0x330F, "kanma kika kini- kiyuri- kiruta- kiro kirokuramu kirome-toru kirowatto kuramu"),
  (0x3319, "kuramuton kuruseiro kuro-ne ke-su koruna ko-ho saikuru sanchi-mu shirinku senchi"),
  (0x3323, "sento ta-su teshi toru ton nano notto haitsu ha-sento ha-tsu ha-reru hiasutoru"),
  (0x332F, "hikuru hiko hiru fuaratto fui-to futshieru furan hekuta-ru heso henihi herutsu hensu"),
  (0x333B, "he-shi he-ta hointo horuto hon honto ho-ru ho-n maikuro mairu matha maruku manshiyon"),
  (0x3348, "mikuron miri miriha-ru meka mekaton me-toru ya-to ya-ru yuan rittoru rira ruhi-"),
  (0x3354, "ru-furu remu rentoken watto 0Dian 1Dian 2Dian 3Dian 4Dian 5Dian 6Dian 7Dian 8Dian"),
  (0x3361, "9Dian 10Dian 11Dian 12Dian 13Dian 14Dian 15Dian 16Dian 17Dian 18Dian 19Dian 20Dian"),
  (0x336D, "21Dian 22Dian 23Dian 24Dian hPa da AU bar oV pc dm dm2 dm3 IU PingCheng ZhaoHe"),
  (0x337D, "DaZheng MingZhi ZhuShiHuiShe pA nA mA mA kA KB MB GB cal kcal pF nF mF mg mg kg Hz"),
  (0x3391, "kHz MHz GHz THz ml ml dl kl fm nm mm mm cm km mm2 cm2 m2 km2 mm3 cm3 m3 km3 m-s m-s2"),
  (0x33A9, "Pa kPa MPa GPa rad rad-s rad-s2 ps ns ms ms pV nV mV mV kV MV pW nW mW mW kW MW kO"),
  (0x33C1, "MO a.m. Bq cc cd C-kg Co. dB Gy ha HP in KK KM kt lm ln log lx mb mil mol PH p.m."),
  (0x33D9, "PPM PR sr Sv Wb V-m A-m 1Ri 2Ri 3Ri 4Ri 5Ri 6Ri 7Ri 8Ri 9Ri 10Ri 11Ri 12Ri 13Ri 14Ri"),
  (0x33EE, "15Ri 16Ri 17Ri 18Ri 19Ri 20Ri 21Ri 22Ri 23Ri 24Ri 25Ri 26Ri 27Ri 28Ri 29Ri 30Ri 31Ri"),
  (0x33FF, "gal"),
  (0xFF10, "0 1 2 3 4 5 6 7 8 9"),
  (0xFF21, "A B C D E F G H I J K L M N O P Q R S T U V W X Y Z"),
  (0xFF41, "a b c d e f g h i j k l m n o p q r s t u v w x y z"),
  (0x1D400, "A B C D E F G H I J K L M N O P Q R S T U V W X Y Z a b c d e f g h i j k l m n o p"),
  (0x1D42A, "q r s t u v w x y z A B C D E F G H I J K L M N O P Q R S T U V W X Y Z a b c d e f"),
  (0x1D454, "g  i j k l m n o p q r s t u v w x y z A B C D E F G H I J K L M N O P Q R S T U V"),
  (0x1D47E, "W X Y Z a b c d e f g h i j k l m n o p q r s t u v w x y z A  C D   G   J K   N O"),
  (0x1D4AB, "P Q  S T U V W X Y Z a b c d  f  h i j k l m n  p q r s t u v w x y z A B C D E F G"),
  (0x1D4D7, "H I J K L M N O P Q R S T U V W X Y Z a b c d e f g h i j k l m n o p q r s t u v w"),
  (0x1D501, "x y z A B  D E F G   J K L M N O P Q  S T U V W X Y  a b c d e f g h i j k l m n o"),
  (0x1D52D, "p q r s t u v w x y z A B  D E F G  I J K L M  O    S T U V W X Y  a b c d e f g h"),
  (0x1D55A, "i j k l m n o p q r s t u v w x y z A B C D E F G H I J K L M N O P Q R S T U V W X"),
  (0x1D584, "Y Z a b c d e f g h i j k l m n o p q r s t u v w x y z A B C D E F G H I J K L M N"),
  (0x1D5AE, "O P Q R S T U V W X Y Z a b c d e f g h i j k l m n o p q r s t u v w x y z A B C D"),
  (0x1D5D8, "E F G H I J K L M N O P Q R S T U V W X Y Z a b c d e f g h i j k l m n o p q r s t"),
  (0x1D602, "u v w x y z A B C D E F G H I J K L M N O P Q R S T U V W X Y Z a b c d e f g h i j"),
  (0x1D62C, "k l m n o p q r s t u v w x y z A B C D E F G H I J K L M N O P Q R S T U V W X Y Z"),
  (0x1D656, "a b c d e f g h i j k l m n o p q r s t u v w x y z A B C D E F G H I J K L M N O P"),
  (0x1D680, "Q R S T U V W X Y Z a b c d e f g h i j k l m n o p q r s t u v w x y z i j   A V G"),
  (0x1D6AB, "D E Z I Th I K L M N X O P R Th S T Y F Ch Ps O  a v g d e z i th i k l m n x o p r"),
  (0x1D6D3, "s s t y f ch ps o d e th k f r p A V G D E Z I Th I K L M N X O P R Th S T Y F Ch"),
  (0x1D6F9, "Ps O  a v g d e z i th i k l m n x o p r s s t y f ch ps o d e th k f r p A V G D E"),
  (0x1D721, "Z I Th I K L M N X O P R Th S T Y F Ch Ps O  a v g d e z i th i k l m n x o p r s s"),
  (0x1D749, "t y f ch ps o d e th k f r p A V G D E Z I Th I K L M N X O P R Th S T Y F Ch Ps O"),
  (0x1D770, "a v g d e z i th i k l m n x o p r s s t y f ch ps o d e th k f r p A V G D E Z I"),
  (0x1D797, "Th I K L M N X O P R Th S T Y F Ch Ps O  a v g d e z i th i k l m n x o p r s s t y"),
  (0x1D7BF, "f ch ps o d e th k f r p W w   0 1 2 3 4 5 6 7 8 9 0 1 2 3 4 5 6 7 8 9 0 1 2 3 4 5"),
  (0x1D7E8, "6 7 8 9 0 1 2 3 4 5 6 7 8 9 0 1 2 3 4 5 6 7 8 9"),
  (0x1F100, "0. 0, 1, 2, 3, 4, 5, 6, 7, 8, 9,"),
  (0x1F110, "(A) (B) (C) (D) (E) (F) (G) (H) (I) (J) (K) (L) (M) (N) (O) (P) (Q) (R) (S) (T) (U)"),
  (0x1F125, "(V) (W) (X) (Y) (Z) -S- C R CD WZ  A B C D E F G H I J K L M N O P Q R S T U V W X"),
  (0x1F148, "Y Z HV MV SD SS PPV WC A B C D E F G H I J K L M N O P Q R S T U V W X Y Z MC MD MR"),
  (0x1F170, "A B C D E F G H I J K L M N O P Q R S T U V W X Y Z P"),
  (0x1F190, "DJ"),
  (0x1F1E6, "A B C D E F G H I J K L M N O P Q R S T U V W X Y Z hoka koko sa"),
  (0x1F210, "Shou Zi Shuang te Er Duo Jie Tian Jiao Ying Wu Liao Qian Hou Zai Xin Chu Zhong"),
  (0x1F222, "Sheng Fan Sheng Chui Yan Tou Bu Yi San You Zuo Zhong You Zhi Zou Da Jin Kong He Man"),
  (0x1F236, "You Yue Shen Ge Ying Pei     -Ben- -San- -Er- -An- -Dian- -Da- -Dao- -Sheng- -Bai-"),
  (0x1F250, "De Ke"),
  (0x1FBF0, "0 1 2 3 4 5 6 7 8 9")]

end SchemaCompiler.Text
