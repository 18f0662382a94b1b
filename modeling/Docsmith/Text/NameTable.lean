-- SUMMARY: Standard names of characters.

/-!
# Character names

Names that the Unicode standard gives to the letters of the European scripts, of Hebrew, Thai and
kana, and to marks, punctuation, symbols and pictographs. Words that occur often are abbreviated by
one or two small letters. A run covers characters with neighbouring code points whose names begin
alike; the rests of the names are separated by semicolons.
-/

namespace Docsmith.Text

/-- Neighbouring characters: the code point of the first, how all the names begin, and how
    they go on. -/
structure NameRun where
  start : Nat
  lead : String
  rest : List String

/-- The words that are abbreviated: first those by `a` to `z`, then those by `aa` to `zz`. -/
def abbreviatedWords : List String := [
  "LETTER WITH CAPITAL SMALL ARROW RIGHTWARDS RIGHT AND DOUBLE LEFTWARDS VERTICAL ABOVE BLACK",
  "LEFT HORIZONTAL TRIANGLE-HEADED WHITE SYMBOL CIRCUMFLEX BELOW GREATER-THAN SIGN HEAVY SQUARE",
  "STROKE DIAERESIS DOWNWARDS BRACKET TRIANGLE CIRCLE YPOGEGRAMMENI PERISPOMENI LESS-THAN EQUAL",
  "POINTING UPWARDS PROSGEGRAMMENI HARPOON CIRCLED FACE LIGHT REVERSED OPERATOR ACUTE DASIA",
  "ORNAMENT MACRON TILDE RIGHT-POINTING DOWN PSILI HOOK PARENTHESIS MARK ANTICLOCKWISE ARROWHEAD",
  "QUOTATION LEFT-POINTING GRAVE LOWER VARIA DIAMOND TURNED DOT DOUBLE-STRUCK DESCENDER",
  "INTERSECTION INVERTED BREVE SUPERSET DIGIT NORTH THREE GREEK INTEGRAL MULTIPLICATION",
  "TWO-HEADED UNDERBAR ANGLE LOGICAL UPSILON ASTERISK DIAGONAL CEDILLA IDEOGRAPHIC SLANTED HALF",
  "CARON UPPER BARB SOUTH UP-POINTING EQUALS MEDIUM OXIA DOWN-POINTING MATHEMATICAL TRIPLE",
  "SMILING ACCENT DIALYTIKA EQUIVALENT KATAKANA LIGATURE MIDDLE SINGLE BAR CLOCKWISE LINE CLOSED",
  "EAST SUBSET EXCLAMATION PUNCTUATION CORNER OPEN QUADRANT SOLIDUS CROSS KATAKANA-HIRAGANA LATIN",
  "BOTTOM SANS-SERIF FOUR DOUBLE-LINE EIGHT INDEX COMMA HEART LONG TEARDROP-SPOKED TELEPHONE",
  "PERSON SCRIPT NUMERAL REVERSE WEST NOTATION OMEGA PRECEDES QUESTION RING STAR STOP SUCCEEDS",
  "OVERLAY POINTED CURLY SHORT DASH TAIL TORTOISE BLACK-FEATHERED SQUARED TWO ARROWS CHARACTERS",
  "ALPHA EQUILATERAL POINT QUADRUPLE SEPARATOR SEVEN NOT CROSSING DIGRAPH ELEMENT EPSILON MINUS",
  "OVERBAR PRODUCT TACK FIVE BLOCK UNION ALMOST FULL HALFWIDTH HAND APPROXIMATELY HORN PLUS TONOS",
  "ONE BULLET FROM OGONEK SPACE ERROR-BARRED ABKHASIAN EXTENSION TURNSTILE BALLOT CONTAINS",
  "ENVELOPE LARGE METRICAL N-ARY PARALLEL QUAD SHADOWED TONE GLOTTAL MOUTH OMICRON QUARTER SHELL",
  "SIMILAR SINGLE-LINE SOUND SUPERSCRIPT NUMBER OCLOCK AIRPLANE BACKHAND DIVISION ENCLOSING IOTA",
  "JAPANESE RETROFLEX SIDEWAYS SUBGROUP THOUSAND APOSTROPHE BAMBOOS BESIDE BLACK-LETTER CENTRED",
  "CIRCLES DOTTED EIGHTHS INSIDE NEITHER LEAF MOON NINE OVER ARMENIAN DASHED DOTS EMPTY EYES",
  "FRACTION LUNATE NEGATIVE NORMAL OUTLINED OVERLAPPING PLASTICS RAISED RIGHT-SHADOWED CHARACTER",
  "COMBINING FULLWIDTH HUNDRED ITERATION LOZENGE RECTANGLE THROUGH TRIGRAM CHESS COLON FOR",
  "LEFT-TO-RIGHT PRIME RIGHT-TO-LEFT BUBBLE CENTRE SEMICIRCLE SEMIDIRECT TRIANGULAR FALLING",
  "IOTIFIED KOMI MIDDLE-WELSH MOUNTAIN MUSICAL OPENING SIGMA SPEAKER AMPERSAND BACKSLASH FORM",
  "HANGUL INDICATOR LIGHTNING PAIRED RISING SUMMATION TOP TWELVE VOICED APPROXIMATE CLOUD",
  "INTEGRATION INTERROBANG ROMAN SARA CONTROL LOW NOTCHED ROTATED THREE-D ARROW-TAIL ARROWHEADS",
  "BALLOON-SPOKED BUILDING CYRILLIC DOCUMENT EIGHTEEN EIGHTH ELEVEN ELLIPSIS GRINNING IMAGE",
  "INFINITY KEYBOARD LENTICULAR MEASURED MODIFIER ONCOMING ORIGINAL PENTAGON SCISSORS SILHOUETTE",
  "SIX SLASH STRAIGHT TIMES UMBRELLA WAVE ZERO BALL CONCAVE-SIDED DOES FLAG PARENTHESIZED",
  "PERPENDICULAR CHECK COMPONENT DELTA FLATTENED GREEN HANDS HOURGLASS IDENTICAL PENTAGRAM SCHWA",
  "SEMICOLON SEVENTEEN BOX BUTTON BYELORUSSIAN-UKRAINIAN CANCELLATION CONSTRUCTION CURL CURVED",
  "FINGERS HYPHEN ORANGE SEMICIRCULAR SIXTEEN TRAFFIC VRACHY ARC BACKSLANTED BANKNOTE CIRCULAR",
  "COMPOSITION CRESCENT DOWNWARD DRAUGHTS ELECTRIC FISHHOOK FLORETTE FOURTEEN FROWNING GAMMA",
  "HANGZHOU HIRAGANA INFORMATION INTERLINEAR MOUSE NINETEEN NOTE OPEN-HEADED PAGE PEDESTAL PIECE",
  "RECEIVER RELATION SEMI-VOICED SQUIGGLE THIRTEEN TICK TOP-LIGHTED U-SHAPED WATER ETA",
  "OPEN-CIRCUIT-OUTPUT ANNOTATION BARRED BRIDGE COMMERCIAL CONTAINING DRAGON FACING FEMALE FLOWER",
  "FOLDER ITALIC JOINED MALE MOBILE MONKEY NESTED REPEAT ROCKET SPEECH SUIT TIP TWENTY VULGAR",
  "WHEELCHAIR ZIGZAG ARCHAIC BETWEEN CARET CROSSED CURVING DIGAMMA DINGBAT DOTLESS EARTH ELLIPSE",
  "FIFTEEN FINAL GLASS HOLDING INVERSE ISOLATE IZHITSA KISSING KOPPA MAILBOX PLACE POINTER",
  "RAILWAY SQUARES STILE WITHOUT CHRISTMAS DELIMITER DEPARTING FILL FISH INVISIBLE RECYCLING",
  "SNOWFLAKE SPHERICAL STUCK-OUT SUBSCRIPT VINE WIND ANTIRESTRICTION CHE GHE HIGH-REVERSED-9 TEN",
  "ASYMPTOTICALLY BEAMED BELL BOTTLE BOWTIE BROKEN CALENDAR CAMERA CHART CLICK COMPUTER CONSTANT",
  "COVERING CURRENCY DEVICE DIGRAM DOLLAR EMOJI FENCE FIRST FLOPPY HAMMER HEADED HEBREW HOUSE",
  "IDENTIFICATION INPUT LITTLE LOOP MEDAL MEMBER MILITARY MULTIMAP MULTISET NO-BREAK NOTES",
  "OVERLINE PENCIL PINWHEEL PLUTO POLICE POSITION POSTAL PREGNANT QUARTERS RETURN RIBBON SCREEN",
  "SERIFS SHOE SHORTS SLEEPING THUMBS TIGHTLY-CLOSED TONGUE TOPBAR WIGGLY WOMAN WOMANS",
  "DROP-SHADOWED END GEOMETRICALLY PARALLELOGRAM THE BABY BALLOON BLUE BOOK BUBBLES CAT CONTAIN",
  "CONTOUR CORNERS DISAPPOINTED DIVIDED DOUBLED HEART-SHAPED HEXAGON HIGH HYPHEN-MINUS",
  "INTERSECTING LETTERS MACHINE MAN NEWLINE PICTURE POUTING PUSHPIN RAYS RIGHT-FACING ROUNDED",
  "SALTIRE SECTION SNOWMAN THEN THOUGHT TRANSMISSION VERY WEDGE-TAILED YIDDISH ACKNOWLEDGE CLOCK",
  "CONSECUTIVE CURVE DIRECTIONAL FIFTY GLOBE HORSE LEFT-FACING NOR PAPER PHONE POWER QUILT",
  "RECTILINEAR RED REPLACEMENT SAMPI SHOGI SWEAT THERMOMETER THETA WIDTH ZHE AROUND AUTOMOBILE",
  "BACK BEHIND BRIGHTNESS BUT CARD CASTLE CONVERGING CROSSBONES CROSSHATCH CRYING DAGGER",
  "DECORATION DEGREE DESCENDING DISK DIVIDE FIFTHS FILE FINGER FIRE FLORAL FLYING FORMEE",
  "FUNCTIONAL GERESH HAIR HARD HEARTS HIGH-SPEED HOMOTHETIC INTERLACED JOINER KANA KEY KHAKASSIAN",
  "LOCOMOTIVE MAGNIFYING MECHANICAL MICROPHONE OFFICE PAMPHYLIAN PERCUSSIVE POLE POMMEE",
  "PROPORTION PURPLE QAMATS RACING RAIN RESTRICTED RHO RICE SAFETY SCHEMA SOFT SOURCE SPIRAL STEM",
  "SUBSTITUTE SUN SUNGLASSES TABULATION TEXT THAI THAN TREE WAVING YANG YELLOW ASCENDING",
  "BICYCLIST BUD BUILDINGS CITYSCAPE COPRODUCT COPYRIGHT EMBEDDING EZH FLATBREAD GERSHAYIM",
  "HEADSTONE INSERTION LEG NEWSPAPER PARAGRAPH PITCHFORK PRECEDING PROLONGED PROPELLER REVOLVING",
  "SATELLITE SYMMETRIC THOUSANDS TOUCHTONE UKRAINIAN UNDERLINE UNIVERSAL VARIATION YUS ACTIVATE",
  "ACTUALLY ANGER BEVERAGE BILABIAL BOARD BOLD BOOKMARK"]

/-- Names from U+0020 to U+2775. -/
def namesFrom0020 : List NameRun := [
  ⟨32, "", ["gf;di bb;be bb;hd v;rr v;PERCENT v;ju;hp;n ba;g ba;cd;fz v;dx;uc;fu en;dn;bs lt;bs gb",
    "bs ey;bs bu;bs dt;bs fq;bs ln;bs fg;bs dv;bs ib;jb;mk;ag v;co v;u v;ek bb;on AT"]⟩,
  ⟨65, "dq c a ", ["A;B;C;D;E;F;G;H;I;J;K;L;M;N;O;P;Q;R;S;T;U;V;W;X;Y;Z"]⟩,
  ⟨91, "", ["n x ab;ef dn;g x ab;s cv;kn de;bg cv"]⟩,
  ⟨97, "dq d a ", ["A;B;C;D;E;F;G;H;I;J;K;L;M;N;O;P;Q;R;S;T;U;V;W;X;Y;Z"]⟩,
  ⟨123, "", ["n er ab;k de;g er ab;av"]⟩,
  ⟨160, "", ["sj gf;bp di bb;CENT v;POUND v;ro v;YEN v;rg dc;up v;z;yu v;FEMININE ORDINAL jy",
    "bf i ca be bb;fh v;xz mu;REGISTERED v;au;wj v;PLUS-MINUS v;hc ey;hc bu;ar cv;MICRO v",
    "PILCROW v;da bl;cf;hc gb;MASCULINE ORDINAL jy;aw i ca be bb;pg ii gb gx;pg ii gb ci",
    "pg ii bu st;bp ek bb"]⟩,
  ⟨192, "dq c a ", ["A b bg;A b ar;A b s;A b av;A b z;A b el l;AE;C b cf;E b bg;E b ar;E b s;E b z",
    "I b bg;I b ar;I b s;I b z;ETH;N b av;O b bg;O b ar;O b s;O b av;O b z"]⟩,
  ⟨215, "bx ", ["v"]⟩, ⟨216, "dq c a ", ["O b y;U b bg;U b ar;U b s;U b z;Y b ar;THORN"]⟩,
  ⟨223, "dq d a ", ["SHARP S;A b bg;A b ar;A b s;A b av;A b z;A b el l;AE;C b cf;E b bg;E b ar",
    "E b s;E b z;I b bg;I b ar;I b s;I b z;ETH;N b av;O b bg;O b ar;O b s;O b av;O b z"]⟩,
  ⟨247, "hh ", ["v"]⟩, ⟨248, "dq d a ", ["O b y;U b bg;U b ar;U b s;U b z;Y b ar;THORN;Y b z"]⟩,
  ⟨256, "dq ", ["c a A b au;d a A b au;c a A b bq;d a A b bq;c a A b ge;d a A b ge;c a C b ar",
    "d a C b ar;c a C b s;d a C b s;c a C b bl l;d a C b bl l;c a C b cj;d a C b cj;c a D b cj",
    "d a D b cj;c a D b y;d a D b y;c a E b au;d a E b au;c a E b bq;d a E b bq;c a E b bl l",
    "d a E b bl l;c a E b ge;d a E b ge;c a E b cj;d a E b cj;c a G b s;d a G b s;c a G b bq",
    "d a G b bq;c a G b bl l;d a G b bl l;c a G b cf;d a G b cf;c a H b s;d a H b s;c a H b y",
    "d a H b y;c a I b av;d a I b av;c a I b au;d a I b au;c a I b bq;d a I b bq;c a I b ge",
    "d a I b ge;c a I b bl l;d a pq I;c cz IJ;d cz IJ;c a J b s;d a J b s;c a K b cf;d a K b cf",
    "d a KRA;c a L b ar;d a L b ar;c a L b cf;d a L b cf;c a L b cj;d a L b cj;c a L b da bl",
    "d a L b da bl;c a L b y;d a L b y;c a N b ar;d a N b ar;c a N b cf;d a N b cf;c a N b cj",
    "d a N b cj;d a N PRECEDED BY hp;c a ENG;d a ENG;c a O b au;d a O b au;c a O b bq;d a O b bq",
    "c a O b i ar;d a O b i ar;c cz OE;d cz OE;c a R b ar;d a R b ar;c a R b cf;d a R b cf",
    "c a R b cj;d a R b cj;c a S b ar;d a S b ar;c a S b s;d a S b s;c a S b cf;d a S b cf",
    "c a S b cj;d a S b cj;c a T b cf;d a T b cf;c a T b cj;d a T b cj;c a T b y;d a T b y",
    "c a U b av;d a U b av;c a U b au;d a U b au;c a U b bq;d a U b bq;c a U b el l;d a U b el l",
    "c a U b i ar;d a U b i ar;c a U b ge;d a U b ge;c a W b s;d a W b s;c a Y b s;d a Y b s",
    "c a Y b z;c a Z b ar;d a Z b ar;c a Z b bl l;d a Z b bl l;c a Z b cj;d a Z b cj;d a dz S",
    "d a B b y;c a B b az;c a B b te;d a B b te;c a gt ln;d a gt ln;c a dl O;c a C b az;d a C b az",
    "c a AFRICAN D;c a D b az;c a D b te;d a D b te;d a bk mc;c a ap E;c a mj;c a dl E;c a F b az",
    "d a F b az;c a G b az;c a nn;d a HV;c a hj;c a I b y;c a K b az;d a K b az;d a L b dc",
    "d a LAMBDA b y;c a bk M;c a N b n az;d a N b dz g zb;c a O b da av;c a O b fy;d a O b fy",
    "c a OI;d a OI;c a P b az;d a P b az;a YR;c a gt ey;d a gt ey;c a ESH;a ap ESH sd",
    "d a T b PALATAL az;c a T b az;d a T b az;c a T b hl az;c a U b fy;d a U b fy;c a cc",
    "c a V b az;c a Y b az;d a Y b az;c a Z b y;d a Z b y;c a yw;c a yw ap;d a yw ap;d a yw b eu",
    "a ey b y;c a gt fq;d a gt fq;a bp gu en b y;a WYNN;a DENTAL rk;a LATERAL rk;a ALVEOLAR rk",
    "a hl rk;c a DZ b cj;c a D b d a Z b cj;d a DZ b cj;c a LJ;c a L b d a J;d a LJ;c a NJ",
    "c a N b d a J;d a NJ;c a A b cj;d a A b cj;c a I b cj;d a I b cj;c a O b cj;d a O b cj",
    "c a U b cj;d a U b cj;c a U b z h au;d a U b z h au;c a U b z h ar;d a U b z h ar",
    "c a U b z h cj;d a U b z h cj;c a U b z h bg;d a U b z h bg;d a bk E;c a A b z h au",
    "d a A b z h au;c a A b bl l h au;d a A b bl l h au;c a AE b au;d a AE b au;c a G b y",
    "d a G b y;c a G b cj;d a G b cj;c a K b cj;d a K b cj;c a O b ge;d a O b ge;c a O b ge h au",
    "d a O b ge h au;c a yw b cj;d a yw b cj;d a J b cj;c a DZ;c a D b d a Z;d a DZ;c a G b ar",
    "d a G b ar;c a HWAIR;c a WYNN;c a N b bg;d a N b bg;c a A b el l h ar;d a A b el l h ar",
    "c a AE b ar;d a AE b ar;c a O b y h ar;d a O b y h ar;c a A b i bg;d a A b i bg;c a A b bp bq",
    "d a A b bp bq;c a E b i bg;d a E b i bg;c a E b bp bq;d a E b bp bq;c a I b i bg;d a I b i bg",
    "c a I b bp bq;d a I b bp bq;c a O b i bg;d a O b i bg;c a O b bp bq;d a O b bp bq",
    "c a R b i bg;d a R b i bg;c a R b bp bq;d a R b bp bq;c a U b i bg;d a U b i bg;c a U b bp bq",
    "d a U b bp bq;c a S b dx t;d a S b dx t;c a T b dx t;d a T b dx t;c a YOGH;d a YOGH",
    "c a H b cj;d a H b cj;c a N b dz g zb;d a D b mr;c a OU;d a OU;c a Z b az;d a Z b az",
    "c a A b bl l;d a A b bl l;c a E b cf;d a E b cf;c a O b z h au;d a O b z h au;c a O b av h au",
    "d a O b av h au;c a O b bl l;d a O b bl l;c a O b bl l h au;d a O b bl l h au;c a Y b au",
    "d a Y b au;d a L b mr;d a N b mr;d a T b mr;d a pq J;d a DB fj;d a QP fj;c a A b y;c a C b y",
    "d a C b y;c a L b dc;c a T b ce y;d a S b SWASH eu;d a Z b SWASH eu;c a gu en;d a gu en",
    "c a B b y;c a U dc;c a bk V;c a E b y;d a E b y;c a J b y;d a J b y;c a d Q b az eu",
    "d a Q b az eu;c a R b y;d a R b y;c a Y b y"]⟩,
  ⟨591, "dq d a ", ["Y b y;bk A;fb;bk fb;B b az;dl O;C b mr;D b eu;D b az;ap E;mj;mj b az;dl E",
    "ap dl E;ap dl E b az;df ap dl E;pq J b y;G b az;ed G"]⟩,
  ⟨610, "dq ", ["a d c G;d a nn;d a RAMS fy;d a bk H;d a H b az;d a HENG b az;d a I b y;d a hj",
    "a d c I;d a L b da av;d a L b BELT;d a L b hl az;d a LEZH;d a bk M;d a bk M b dz zb",
    "d a M b az;d a N b n az;d a N b hl az;a d c N;d a ol O;a d c OE;d a df ei;d a PHI;d a bk R",
    "d a bk R b dz zb;d a bk R b az;d a R b dz zb;d a R b eu;d a R b nj;d a ap R b nj;a d c R",
    "a d c bp R"]⟩,
  ⟨642, "dq d a ", ["S b az;ESH;pq J b y h az;SQUAT ap ESH;ESH b mr;bk T;T b hl az;U dc;cc;V b az",
    "bk V;bk W"]⟩,
  ⟨654, "dq ", ["d a bk Y;a d c Y;d a Z b hl az;d a Z b mr;d a yw;d a yw b mr;a gu en",
    "a PHARYNGEAL kf FRICATIVE;a bp gu en;a STRETCHED C;a zw rk;a d c B;d a df dl E;a d c G b az",
    "a d c H;d a J b CROSSED-TAIL;d a bk K;a d c L;d a Q b az;a gu en b y;a ap gu en b y;d a DZ fj",
    "d a DEZH fj;d a DZ fj b mr;d a TS fj;d a TESH fj;d a TC fj b mr;d a FENG fj;d a LS fj",
    "d a LZ fj;a zw xm;a BIDENTAL xm;d a bk H b nj;d a bk H b nj h eu"]⟩,
  ⟨688, "lh a ", ["d H;d H b az;d J;d R;d bk R;d bk R b az;d c bp R;d W;d Y;je;i je;bk dx;hp;ap dx",
    "g ci el;n ci el;gu en;ap gu en;n bd;g bd;UP bd;ax bd;s cv"]⟩,
  ⟨711, "", ["cj"]⟩,
  ⟨712, "lh a ", ["k de;au;ar cv;bg cv;kn k de;kn au;kn bg cv;kn ar cv;jk jb;ci jk jb;ht g ci el",
    "ht n ci el;UP fp;ax fp;fz v;fm v"]⟩,
  ⟨728, "", ["bq;bl l;el l;ge;d av;i ar cv"]⟩,
  ⟨734, "lh a ", ["RHOTIC az;do cv;d nn;d L;d S;d X;d ap gu en;EXTRA-HIGH gt dc;ub gt dc;MID gt dc",
    "kn gt dc;EXTRA-LOW gt dc;YIN ql gt bb;ym ql gt bb;VOICING;UNASPIRATED;i hp;kn ax bd;kn UP bd",
    "kn n bd;kn g bd;kn el;da bg cv;da i bg cv;da i ar cv;kn av;ip jb;BEGIN ub gt;tj ub gt",
    "BEGIN kn gt;tj kn gt;SHELF;dl SHELF;kn n e"]⟩,
  ⟨768, "is ", ["bg cv;ar cv;s cv;av;au;sl;bq;bl l;z;az l;el l;i ar cv;cj;k de l;i k de l;i bg cv",
    "CANDRABINDU;bp bq;bk dx l;dx l;ap dx l;dx l g;bg cv t;ar cv t;n fp t;g fp t;n ca l;fy",
    "n ci el t;UP fp t;ax fp t;fz v t;fm v t;PALATALIZED az t;hl az t;bl t;z t;el t;dx t;cf;ge",
    "k de t;om t;bp i ARCH t;cj t;s cv t;bq t;bp bq t;av t;au t;kn de;i kn de;av ep;es y ep",
    "dz y ep;es dn ep;dz dn ep;g ci el t;bp om t;x t;SEAGULL t;X l;k av;i sl;bg gt bb;ar gt bb",
    "bv af;bv KORONIS;bv cw ga;bv ae;om l;co v t;i k de t;n ca t;fh av l;xa l;ft ah TO l;n g e t",
    "aj e t;GRAPHEME xc;g bd l;n ci el l;FERMATA;X t;n bd t;g bd t;g bd h UP bd t;g ci el l;bl l g",
    "cd t;i el t;pi l;i bq t;i bq;i au;i au t;i av;i bp bq;i f e t"]⟩,
  ⟨867, "is dq d a ", ["A;E;I;O;U;C;D;H;M;R;T;V;X"]⟩,
  ⟨880, "bv ", ["c a HETA;d a HETA;c a pj vo;d a pj vo;ee v;bh ee v;c a xl po;d a xl po"]⟩,
  ⟨890, "bv ", ["ae;d ap ij js r;d hv ij js r;d ap hv ij js r;ek bb;c a YOT"]⟩,
  ⟨900, "bv ", ["ga;cw ga;c a fb b ga;ANO TELEIA;c a fl b ga;c a oi b ga;c a hj b ga"]⟩,
  ⟨908, "bv c a gw b ", ["ga"]⟩, ⟨910, "bv ", ["c a cc b ga;c a ei b ga;d a hj b cw h ga"]⟩,
  ⟨913, "bv c a ", ["fb;BETA;nn;mc;fl;ZETA;oi;vs;hj;KAPPA;LAMDA;MU;NU;XI;gw;PI;xv"]⟩,
  ⟨931, "bv c a ", ["js;TAU;cc;PHI;CHI;PSI;ei;hj b cw;cc b cw"]⟩,
  ⟨940, "bv d a ", ["fb b ga;fl b ga;oi b ga;hj b ga;cc b cw h ga;fb;BETA;nn;mc;fl;ZETA;oi;vs;hj",
    "KAPPA;LAMDA;MU;NU;XI;gw;PI;xv;pu js;js;TAU;cc;PHI;CHI;PSI;ei;hj b cw;cc b cw;gw b ga;cc b ga",
    "ei b ga"]⟩,
  ⟨975, "bv ", ["c KAI r;BETA r;vs r;cc b az r;cc b ar h az r;cc b z h az r;PHI r;PI r;KAI r",
    "a pj qb;d a pj qb;a STIGMA;d a STIGMA;a po;d a po;a qb;d a qb;a vo;d a vo"]⟩,
  ⟨994, "COPTIC ", ["c a SHEI;d a SHEI;c a FEI;d a FEI;c a KHEI;d a KHEI;c a HORI;d a HORI",
    "c a GANGIA;d a GANGIA;c a SHIMA;d a SHIMA;c a DEI;d a DEI"]⟩,
  ⟨1008, "bv ", ["KAPPA r;xv r;ij js r;a YOT;c vs r;ij fl r;ap ij fl r;c a SHO;d a SHO;c ij js r",
    "c a SAN;d a SAN;xv b y r;c ap ij js r;c hv ij js r;c ap hv ij js r"]⟩,
  ⟨1024, "kv c a ", ["IE b bg;IO;DJE;GJE;zn IE;DZE;mo I;YI;JE;LJE;NJE;TSHE;KJE;I b bg;es U;DZHE;A",
    "BE;VE;qy;DE;IE;vu;ZE;I;es I;KA;EL;EM;EN;O;PE;ER;ES;TE;U;EF;HA;TSE;qx;SHA;SHCHA;wx v;YERU;xz v",
    "E;YU;YA"]⟩,
  ⟨1072, "kv d a ", ["A;BE;VE;qy;DE;IE;vu;ZE;I;es I;KA;EL;EM;EN;O;PE;ER;ES;TE;U;EF;HA;TSE;qx;SHA",
    "SHCHA;wx v;YERU;xz v;E;YU;YA;IE b bg;IO;DJE;GJE;zn IE;DZE;mo I;YI;JE;LJE;NJE;TSHE;KJE;I b bg",
    "es U;DZHE"]⟩,
  ⟨1120, "kv ", ["c a ei;d a ei;c a YAT;d a YAT;c a jm E;d a jm E;c a sc zr;d a sc zr;c a jm sc zr",
    "d a jm sc zr;c a BIG zr;d a BIG zr;c a jm BIG zr;d a jm BIG zr;c a KSI;d a KSI;c a PSI",
    "d a PSI;c a FITA;d a FITA;c a pz;d a pz;c a pz b i bg cv;d a pz b i bg cv;c a UK;d a UK",
    "c a ROUND ei;d a ROUND ei;c a ei b TITLO;d a ei b TITLO;c a OT;d a OT;c a qb;d a qb;zl v"]⟩,
  ⟨1155, "is kv ", ["TITLO;PALATALIZATION;as PNEUMATA;ay PNEUMATA;POKRYTIE;iu zl v;MILLIONS v"]⟩,
  ⟨1162, "kv ", ["c a es I b eu;d a es I b eu;c a SEMISOFT v;d a SEMISOFT v;c a ER b oe;d a ER b oe",
    "c a qy b UPTURN;d a qy b UPTURN;c a qy b y;d a qy b y;c a qy b da az;d a qy b da az",
    "c a vu b bn;d a vu b bn;c a ZE b bn;d a ZE b bn;c a KA b bn;d a KA b bn;c a KA b k y",
    "d a KA b k y;c a KA b y;d a KA b y;c a BASHKIR KA;d a BASHKIR KA;c a EN b bn;d a EN b bn",
    "c cz EN qy;d cz EN qy;c a PE b da az;d a PE b da az;c a gh HA;d a gh HA;c a ES b bn",
    "d a ES b bn;c a TE b bn;d a TE b bn;c a lp U;d a lp U;c a lp U b y;d a lp U b y;c a HA b bn",
    "d a HA b bn;c cz TE TSE;d cz TE TSE;c a qx b bn;d a qx b bn;c a qx b k y;d a qx b k y",
    "c a SHHA;d a SHHA;c a gh qx;d a gh qx;c a gh qx b bn;d a gh qx b bn;a PALOCHKA;c a vu b bq",
    "d a vu b bq;c a KA b az;d a KA b az;c a EL b eu;d a EL b eu;c a EN b az;d a EN b az",
    "c a EN b eu;d a EN b eu;c a xf qx;d a xf qx;c a EM b eu;d a EM b eu;d a PALOCHKA;c a A b bq",
    "d a A b bq;c a A b z;d a A b z;c cz A IE;d cz A IE;c a IE b bq;d a IE b bq;c a mj;d a mj",
    "c a mj b z;d a mj b z;c a vu b z;d a vu b z;c a ZE b z;d a ZE b z;c a gh DZE;d a gh DZE",
    "c a I b au;d a I b au;c a I b z;d a I b z;c a O b z;d a O b z;c a ol O;d a ol O;c a ol O b z",
    "d a ol O b z;c a E b z;d a E b z;c a U b au;d a U b au;c a U b z;d a U b z;c a U b i ar",
    "d a U b i ar;c a qx b z;d a qx b z;c a qy b bn;d a qy b bn;c a YERU b z;d a YERU b z",
    "c a qy b y h az;d a qy b y h az;c a HA b az;d a HA b az;c a HA b y;d a HA b y;c a jn DE",
    "d a jn DE;c a jn DJE;d a jn DJE;c a jn ZJE;d a jn ZJE;c a jn DZJE;d a jn DZJE;c a jn LJE",
    "d a jn LJE;c a jn NJE;d a jn NJE;c a jn SJE;d a jn SJE;c a jn TJE;d a jn TJE;c a ap ZE",
    "d a ap ZE;c a EL b az;d a EL b az;c a LHA;d a LHA;c a RHA;d a RHA;c a YAE;d a YAE;c a QA",
    "d a QA;c a WE;d a WE;c a ALEUT KA;d a ALEUT KA;c a EL b da az;d a EL b da az;c a EN b da az",
    "d a EN b da az;c a PE b bn;d a PE b bn;c a SHHA b bn;d a SHHA b bn;c a EN b n az",
    "d a EN b n az;c a DZZHE;d a DZZHE;c a DCHE;d a DCHE;c a EL b bn;d a EL b bn"]⟩,
  ⟨1329, "id c a ", ["AYB;BEN;GIM;DA;ECH;ZA;EH;ET;TO;vu;INI;LIWN;XEH;CA;KEN;HO;JA;GHAD;CHEH;MEN;YI",
    "NOW;SHA;VO;CHA;PEH;JHEH;RA;SEH;VEW;TIWN;REH;CO;YIWN;PIWR;KEH;OH;FEH"]⟩,
  ⟨1369, "id ", ["lh a n ci el;hp;EMPHASIS bb;di bb;dx;ek bb;ABBREVIATION bb"]⟩,
  ⟨1376, "id d a ", ["bk AYB;AYB;BEN;GIM;DA;ECH;ZA;EH;ET;TO;vu;INI;LIWN;XEH;CA;KEN;HO;JA;GHAD;CHEH",
    "MEN;YI;NOW;SHA;VO;CHA;PEH;JHEH;RA;SEH;VEW;TIWN;REH;CO;YIWN;PIWR;KEH;OH;FEH"]⟩,
  ⟨1415, "id ", ["d cz ECH YIWN;d a YI b y;fu en;mu"]⟩,
  ⟨1421, "", ["um id ETERNITY v;vf id ETERNITY v;id DRAM v"]⟩,
  ⟨1425, "ry cv ", ["ETNAHTA;SEGOL;SHALSHELET;ZAQEF QATAN;ZAQEF GADOL;TIPEHA;REVIA;ZARQA;PASHTA",
    "YETIV;TEVIR;wv;wv MUQDAM;yy;QARNEY PARA;TELISHA GEDOLA;PAZER;ATNAH HAFUKH;MUNAH;MAHAPAKH",
    "MERKHA;MERKHA KEFULA;DARGA;QADMA;TELISHA QETANA;YERAH BEN YOMO;OLE;ILUY;DEHI;ZINOR"]⟩,
  ⟨1455, "ry ", ["bb MASORA ad;fd SHEVA;fd HATAF SEGOL;fd HATAF PATAH;fd HATAF xr;fd HIRIQ;fd TSERE",
    "fd SEGOL;fd PATAH;fd xr;fd HOLAM;fd HOLAM HASER jc VAV;fd QUBUTS;fd DAGESH OR MAPIQ;fd METEG",
    "dj MAQAF;fd RAFE;dj PASEQ;fd SHIN bl;fd SIN bl;dj SOF PASUQ;bb ck bl;bb bh bl;dj NUN HAFUKHA",
    "fd xr QATAN"]⟩,
  ⟨1488, "ry a ", ["ALEF;BET;GIMEL;DALET;HE;VAV;ZAYIN;HET;TET;YOD;pu KAF;KAF;LAMED;pu MEM;MEM",
    "pu NUN;NUN;SAMEKH;AYIN;pu PE;PE;pu TSADI;TSADI;QOF;RESH;SHIN;TAV"]⟩,
  ⟨1519, "ry ", ["YOD ac;cz uw i VAV;cz uw VAV YOD;cz uw i YOD;dj wv;dj yy"]⟩,
  ⟨3585, "yi ir ", ["KO KAI;KHO KHAI;KHO KHUAT;KHO KHWAI;KHO KHON;KHO RAKHANG;NGO NGU;CHO CHAN",
    "CHO CHING;CHO CHANG;SO SO;CHO CHOE;YO YING;DO CHADA;TO PATAK;THO yj;THO NANGMONTHO",
    "THO PHUTHAO;NO NEN;DO DEK;TO TAO;THO THUNG;THO THAHAN;THO THONG;NO NU;BO BAIMAI;PO PLA",
    "PHO PHUNG;FO FA;PHO PHAN;FO FAN;PHO SAMPHAO;MO MA;YO YAK;RO RUA;RU;LO LING;LU;WO WAEN;SO SALA",
    "SO RUSI;SO SUA;HO HIP;LO CHULA;O ANG;HO NOKHUK;PAIYANNOI;kl A;MAI HAN-AKAT;kl AA;kl AM;kl I",
    "kl II;kl UE;kl UEE;kl U;kl UU;PHINTHU"]⟩,
  ⟨3647, "yi ro r ", ["BAHT"]⟩,
  ⟨3648, "yi ir ", ["kl E;kl AE;kl O;kl AI MAIMUAN;kl AI MAIMALAI;LAKKHANGYAO;MAIYAMOK;MAITAIKHU",
    "MAI EK;MAI THO;MAI TRI;MAI CHATTAWA;THANTHAKHAT;NIKHAHIT;YAMAKKAN;FONGMAN"]⟩,
  ⟨3664, "yi bs ", ["lt;gb;ey;bu;dt;fq;ln;fg;dv;ib"]⟩, ⟨3674, "yi ir ", ["ANGKHANKHU;KHOMUT"]⟩,
  ⟨7680, "dq ", ["c a A b el t;d a A b el t;c a B b bl l;d a B b bl l;c a B b bl t;d a B b bl t",
    "c a B b de t;d a B b de t;c a C b cf h ar;d a C b cf h ar;c a D b bl l;d a D b bl l",
    "c a D b bl t;d a D b bl t;c a D b de t;d a D b de t;c a D b cf;d a D b cf;c a D b s t",
    "d a D b s t;c a E b au h bg;d a E b au h bg;c a E b au h ar;d a E b au h ar;c a E b s t",
    "d a E b s t;c a E b av t;d a E b av t;c a E b cf h bq;d a E b cf h bq;c a F b bl l",
    "d a F b bl l;c a G b au;d a G b au;c a H b bl l;d a H b bl l;c a H b bl t;d a H b bl t",
    "c a H b z;d a H b z;c a H b cf;d a H b cf;c a H b bq t;d a H b bq t;c a I b av t;d a I b av t",
    "c a I b z h ar;d a I b z h ar;c a K b ar;d a K b ar;c a K b bl t;d a K b bl t;c a K b de t",
    "d a K b de t;c a L b bl t;d a L b bl t;c a L b bl t h au;d a L b bl t h au;c a L b de t",
    "d a L b de t;c a L b s t;d a L b s t;c a M b ar;d a M b ar;c a M b bl l;d a M b bl l",
    "c a M b bl t;d a M b bl t;c a N b bl l;d a N b bl l;c a N b bl t;d a N b bl t;c a N b de t",
    "d a N b de t;c a N b s t;d a N b s t;c a O b av h ar;d a O b av h ar;c a O b av h z",
    "d a O b av h z;c a O b au h bg;d a O b au h bg;c a O b au h ar;d a O b au h ar;c a P b ar",
    "d a P b ar;c a P b bl l;d a P b bl l;c a R b bl l;d a R b bl l;c a R b bl t;d a R b bl t",
    "c a R b bl t h au;d a R b bl t h au;c a R b de t;d a R b de t;c a S b bl l;d a S b bl l",
    "c a S b bl t;d a S b bl t;c a S b ar h bl l;d a S b ar h bl l;c a S b cj h bl l",
    "d a S b cj h bl l;c a S b bl t h bl l;d a S b bl t h bl l;c a T b bl l;d a T b bl l",
    "c a T b bl t;d a T b bl t;c a T b de t;d a T b de t;c a T b s t;d a T b s t;c a U b z t",
    "d a U b z t;c a U b av t;d a U b av t;c a U b s t;d a U b s t;c a U b av h ar;d a U b av h ar",
    "c a U b au h z;d a U b au h z;c a V b av;d a V b av;c a V b bl t;d a V b bl t;c a W b bg",
    "d a W b bg;c a W b ar;d a W b ar;c a W b z;d a W b z;c a W b bl l;d a W b bl l;c a W b bl t",
    "d a W b bl t;c a X b bl l;d a X b bl l;c a X b z;d a X b z;c a Y b bl l;d a Y b bl l",
    "c a Z b s;d a Z b s;c a Z b bl t;d a Z b bl t;c a Z b de t;d a Z b de t;d a H b de t",
    "d a T b z;d a W b el l;d a Y b el l;d a A b g ci el;d a dz S b bl l;d a dz S b ce y",
    "d a dz S b ub y;c a SHARP S;d a mc;c a A b bl t;d a A b bl t;c a A b az l;d a A b az l",
    "c a A b s h ar;d a A b s h ar;c a A b s h bg;d a A b s h bg;c a A b s h az l;d a A b s h az l",
    "c a A b s h av;d a A b s h av;c a A b s h bl t;d a A b s h bl t;c a A b bq h ar",
    "d a A b bq h ar;c a A b bq h bg;d a A b bq h bg;c a A b bq h az l;d a A b bq h az l",
    "c a A b bq h av;d a A b bq h av;c a A b bq h bl t;d a A b bq h bl t;c a E b bl t;d a E b bl t",
    "c a E b az l;d a E b az l;c a E b av;d a E b av;c a E b s h ar;d a E b s h ar;c a E b s h bg",
    "d a E b s h bg;c a E b s h az l;d a E b s h az l;c a E b s h av;d a E b s h av",
    "c a E b s h bl t;d a E b s h bl t;c a I b az l;d a I b az l;c a I b bl t;d a I b bl t",
    "c a O b bl t;d a O b bl t;c a O b az l;d a O b az l;c a O b s h ar;d a O b s h ar",
    "c a O b s h bg;d a O b s h bg;c a O b s h az l;d a O b s h az l;c a O b s h av;d a O b s h av",
    "c a O b s h bl t;d a O b s h bl t;c a O b fy h ar;d a O b fy h ar;c a O b fy h bg",
    "d a O b fy h bg;c a O b fy h az l;d a O b fy h az l;c a O b fy h av;d a O b fy h av",
    "c a O b fy h bl t;d a O b fy h bl t;c a U b bl t;d a U b bl t;c a U b az l;d a U b az l",
    "c a U b fy h ar;d a U b fy h ar;c a U b fy h bg;d a U b fy h bg;c a U b fy h az l",
    "d a U b fy h az l;c a U b fy h av;d a U b fy h av;c a U b fy h bl t;d a U b fy h bl t",
    "c a Y b bg;d a Y b bg;c a Y b bl t;d a Y b bl t;c a Y b az l;d a Y b az l;c a Y b av",
    "d a Y b av;c a jo LL;d a jo LL;c a jo V;d a jo V;c a Y b sd;d a Y b sd"]⟩,
  ⟨7936, "bv d a fb b ", ["ay;as;ay h bi;as h bi;ay h cq;as h cq;ay h af;as h af"]⟩,
  ⟨7944, "bv c a fb b ", ["ay;as;ay h bi;as h bi;ay h cq;as h cq;ay h af;as h af"]⟩,
  ⟨7952, "bv d a fl b ", ["ay;as;ay h bi;as h bi;ay h cq;as h cq"]⟩,
  ⟨7960, "bv c a fl b ", ["ay;as;ay h bi;as h bi;ay h cq;as h cq"]⟩,
  ⟨7968, "bv d a oi b ", ["ay;as;ay h bi;as h bi;ay h cq;as h cq;ay h af;as h af"]⟩,
  ⟨7976, "bv c a oi b ", ["ay;as;ay h bi;as h bi;ay h cq;as h cq;ay h af;as h af"]⟩,
  ⟨7984, "bv d a hj b ", ["ay;as;ay h bi;as h bi;ay h cq;as h cq;ay h af;as h af"]⟩,
  ⟨7992, "bv c a hj b ", ["ay;as;ay h bi;as h bi;ay h cq;as h cq;ay h af;as h af"]⟩,
  ⟨8000, "bv d a gw b ", ["ay;as;ay h bi;as h bi;ay h cq;as h cq"]⟩,
  ⟨8008, "bv c a gw b ", ["ay;as;ay h bi;as h bi;ay h cq;as h cq"]⟩,
  ⟨8016, "bv d a cc b ", ["ay;as;ay h bi;as h bi;ay h cq;as h cq;ay h af;as h af"]⟩,
  ⟨8025, "bv c a cc b ", ["as"]⟩, ⟨8027, "bv c a cc b as h ", ["bi"]⟩,
  ⟨8029, "bv c a cc b as h ", ["cq"]⟩, ⟨8031, "bv c a cc b as h ", ["af"]⟩,
  ⟨8032, "bv d a ei b ", ["ay;as;ay h bi;as h bi;ay h cq;as h cq;ay h af;as h af"]⟩,
  ⟨8040, "bv c a ei b ", ["ay;as;ay h bi;as h bi;ay h cq;as h cq;ay h af;as h af"]⟩,
  ⟨8048, "bv d a ", ["fb b bi;fb b cq;fl b bi;fl b cq;oi b bi;oi b cq;hj b bi;hj b cq;gw b bi",
    "gw b cq;cc b bi;cc b cq;ei b bi;ei b cq"]⟩,
  ⟨8064, "bv d a fb b ", ["ay h ae;as h ae;ay h bi h ae;as h bi h ae;ay h cq h ae;as h cq h ae",
    "ay h af h ae;as h af h ae"]⟩,
  ⟨8072, "bv c a fb b ", ["ay h ak;as h ak;ay h bi h ak;as h bi h ak;ay h cq h ak;as h cq h ak",
    "ay h af h ak;as h af h ak"]⟩,
  ⟨8080, "bv d a oi b ", ["ay h ae;as h ae;ay h bi h ae;as h bi h ae;ay h cq h ae;as h cq h ae",
    "ay h af h ae;as h af h ae"]⟩,
  ⟨8088, "bv c a oi b ", ["ay h ak;as h ak;ay h bi h ak;as h bi h ak;ay h cq h ak;as h cq h ak",
    "ay h af h ak;as h af h ak"]⟩,
  ⟨8096, "bv d a ei b ", ["ay h ae;as h ae;ay h bi h ae;as h bi h ae;ay h cq h ae;as h cq h ae",
    "ay h af h ae;as h af h ae"]⟩,
  ⟨8104, "bv c a ei b ", ["ay h ak;as h ak;ay h bi h ak;as h bi h ak;ay h cq h ak;as h cq h ak",
    "ay h af h ak;as h af h ak"]⟩,
  ⟨8112, "bv d a fb b ", ["mz;au;bi h ae;ae;cq h ae"]⟩,
  ⟨8118, "bv ", ["d a fb b af;d a fb b af h ae;c a fb b mz;c a fb b au;c a fb b bi;c a fb b cq",
    "c a fb b ak;KORONIS;ak;ay;af;cw h af;d a oi b bi h ae;d a oi b ae;d a oi b cq h ae"]⟩,
  ⟨8134, "bv ", ["d a oi b af;d a oi b af h ae;c a fl b bi;c a fl b cq;c a oi b bi;c a oi b cq",
    "c a oi b ak;ay h bi;ay h cq;ay h af;d a hj b mz;d a hj b au;d a hj b cw h bi;d a hj b cw h cq"]⟩,
  ⟨8150, "bv d a hj b ", ["af;cw h af"]⟩, ⟨8152, "bv c a hj b ", ["mz;au;bi;cq"]⟩,
  ⟨8157, "bv ", ["as h bi;as h cq;as h af;d a cc b mz;d a cc b au;d a cc b cw h bi;d a cc b cw h cq",
    "d a xv b ay;d a xv b as;d a cc b af;d a cc b cw h af;c a cc b mz;c a cc b au;c a cc b bi",
    "c a cc b cq;c a xv b as;cw h bi;cw h cq;bi"]⟩,
  ⟨8178, "bv d a ei b ", ["bi h ae;ae;cq h ae"]⟩,
  ⟨8182, "bv ", ["d a ei b af;d a ei b af h ae;c a gw b bi;c a gw b cq;c a ei b bi;c a ei b cq",
    "c a ei b ak;cq;as"]⟩,
  ⟨8192, "", ["EN gr;EM gr;EN gf;EM gf;THREE-PER-EM gf;FOUR-PER-EM gf;SIX-PER-EM gf;FIGURE gf;dj gf",
    "THIN gf;ww gf;lt vt gf;lt vt NON-JOINER;lt vt xc;jd bb;jf bb;mu;NON-BREAKING mu;FIGURE et",
    "EN et;EM et;o dc;i k de;i kn de;n db be bb;g db be bb;db LOW-9 be bb;db qz be bb;n i be bb",
    "g i be bb;i LOW-9 be bb;i qz be bb;wh;i wh;gc;jk gc;gb bl LEADER;ey bl LEADER;o la",
    "HYPHENATION fd;de ff;zd ff;jd yv;jf yv;POP vb FORMATTING;jd OVERRIDE;jf OVERRIDE;NARROW sj gf",
    "PER MILLE v;PER ra ho v;je;i je;ct je;ap je;ap i je;ap ct je;pl;db bf ca be bb;db aw ca be bb",
    "REFERENCE bb;i di bb;kj;sl;UNDERTIE;ir TIE;pl za fd;ASTERISM;mu gc;ii lo;n x ab b QUILL",
    "g x ab b QUILL;i ek bb;ek di bb;di ek bb;TIRONIAN v ET;ap PILCROW v;m j gc;m f gc;kn cd;ap mk",
    "CLOSE UP;ey ASTERISKS ALIGNED VERTICALLY;on fm v;SWUNG et;bp UNDERTIE;os dj bb;bu bl dj;fe je",
    "dt bl dj;fq bl dj;ey bl dj;dt bl bb;hv do;TRICOLON;k dt if;cp cs gf;WORD xc",
    "FUNCTION APPLICATION;qo lq;qo ff;qo fz"]⟩,
  ⟨8294, "", ["jd py;jf py;ru STRONG py;POP vb py;INHIBIT zk SWAPPING;zs zk SWAPPING",
    "INHIBIT ARABIC jw SHAPING;zs ARABIC jw SHAPING;NATIONAL bs SHAPES;NOMINAL bs SHAPES;hc lt",
    "hc dq d a I"]⟩,
  ⟨8308, "hc ", ["dt;fq;ln;fg;dv;ib;fz v;fm;co v;n ba;g ba;dq d a N"]⟩,
  ⟨8320, "qt ", ["lt;gb;ey;bu;dt;fq;ln;fg;dv;ib;fz v;fm;co v;n ba;g ba"]⟩,
  ⟨8336, "dq qt d a ", ["A;E;O;X;mj;H;K;L;M;N;P;S;T"]⟩,
  ⟨8352, "", ["EURO-CURRENCY v;jb v;CRUZEIRO v;FRENCH FRANC v;LIRA v;MILL v;NAIRA v;PESETA v",
    "RUPEE v;WON v;NEW SHEQEL v;DONG v;EURO v;KIP v;TUGRIK v;DRACHMA v;GERMAN PENNY v;PESO v",
    "GUARANI v;AUSTRAL v;HRYVNIA v;CEDI v;LIVRE TOURNOIS v;SPESMILO v;TENGE v;INDIAN RUPEE v",
    "TURKISH LIRA v;NORDIC bb v;MANAT v;RUBLE v;LARI v;BITCOIN v;SOM v"]⟩,
  ⟨8400, "is ", ["n al l;g al l;dz k de ep;es k de ep;bc e l;dd e l;n e l;g e l;el ep;dd el ep",
    "bc el ep;bu if l;dt if l;hi ad;hi x;hi bj;hi ad jv;n g e l;hi sw;hi KEYCAP;hi UPWARD ai ac",
    "ef dn ep;i k y ep;ANNUITY r;ct UNDERDOT;WIDE om l;j e ep;dz i dn ep;f al b cl aa;j al b cl aa",
    "n e t;g e t;cd l"]⟩,
  ⟨8448, "", ["ACCOUNT OF;ADDRESSED TO tm SUBJECT;bm c C;wj CELSIUS;jh de r;CARE OF;CADA UNA",
    "EULER rm;SCRUPLE;wj FAHRENHEIT;ed d G;ed c H;hs c H;bm c H;PLANCK rm;PLANCK rm ic ey PI",
    "ed c I;hs c I;ed c L;ed d L;L B dc r;bm c N;NUMERO v;hb RECORDING yu;ed c P;bm c P;bm c Q",
    "ed c R;hs c R;bm c R;PRESCRIPTION TAKE;RESPONSE;SERVICE bb;eb v;TRADE bb v;VERSICLE;bm c Z",
    "OUNCE v;OHM v;bp OHM v;hs c Z;bk bv d a hj;KELVIN v;ANGSTROM v;ed c B;hs c C;ESTIMATED r",
    "ed d E;ed c E;ed c F;bk c F;ed c M;ed d O;ALEF r;BET r;GIMEL r;DALET r;nq ya;kp c Q",
    "FACSIMILE v;bm d PI;bm d nn;bm c nn;bm c PI;bm gp kc;bk ds c G;bk ds c L;ap ds c L;bk ds c Y",
    "bm ou c D;bm ou d D;bm ou d E;bm ou d I;bm ou d J;PROPERTY de;bk ju;PER v;AKTIESELSKAB;bk d F",
    "r jc SAMARITAN ya"]⟩,
  ⟨8528, "pg ii ", ["gb SEVENTH;gb NINTH;gb TENTH;gb THIRD;ey THIRDS;gb FIFTH;ey wn;bu wn;dt wn",
    "gb SIXTH;fq SIXTHS;gb ky;bu hw;fq hw;fg hw"]⟩,
  ⟨8543, "ii NUMERATOR ", ["gb"]⟩,
  ⟨8544, "kk ee ", ["gb;ey;bu;dt;fq;ln;fg;dv;ib;ra;kz;ke;vc;gb iu;fq iu;gb ho"]⟩,
  ⟨8560, "d kk ee ", ["gb;ey;bu;dt;fq;ln;fg;dv;ib;ra;kz;ke;vc;gb iu;fq iu;gb ho"]⟩,
  ⟨8576, "", ["kk ee gb ho C D;kk ee fq ho;kk ee ra ho;kk ee ap gb iu;dq d a ap C;kk ee ln LATE jw",
    "kk ee vc EARLY jw;kk ee vc ho;kk ee gb iu ho;pg ii lt THIRDS;bk bs ey;bk bs bu"]⟩,
  ⟨8592, "", ["j e;aj e;f e;aa e;n g e;UP ax e;bt eg e;bt dg e;cm dg e;cm eg e;j e b y;f e b y",
    "j ls e;f ls e;j ey rx e;aj ey rx e;f ey rx e;aa ey rx e;j e b eu;f e b eu;j e gd dc",
    "aj e gd dc;f e gd dc;aa e gd dc;UP ax e b BASE;j e b az;f e b az;j e b sd;f e b sd;n g ls e",
    "n g e b y;aa pi e;aj e b pe j;aj e b pe f;aa e b pe j;aa e b pe f;f e b dk aa;aa e b dk j",
    "bc kd ji e;dd kd ji e;bt eg e TO dz dc;j e TO dc ic f e TO dc;bc dl ad e;dd dl ad e",
    "j al b cl aj;j al b cl aa;aj al b cl f;aj al b cl j;f al b cl aj;f al b cl aa;aa al b cl f",
    "aa al b cl j;f e ic j e;aj e j OF aa e;j e ic f e;j ka ez;aj ka ez;f ka ez;aa ka ez",
    "j al ic f al;f al ic j al;j i e b y;n g i e b y;f i e b y;j i e;aj i e;f i e;aa i e;n g i e",
    "UP ax i e;bt eg i e;bt dg i e;cm dg i e;cm eg i e;j ct e;f ct e;j oc e;f oc e;aj e b i y",
    "aa e b i y;j ie e;aj ie e;f ie e;aa ie e;j e TO dc;f e TO dc;j q e;aj q e;f q e;aa q e",
    "aj q e gd dc;aj q e ON nx;aj q e ON nx b o dc;aj q e ON nx b k dc;aj q i e;aj q i e ON nx",
    "f q e gd WALL;bt eg e TO dk;cm dg e TO dk;UP ax q e;g e b d ad;aa e j OF aj e;bu f ez",
    "j e b k y;f e b k y;n g e b k y;j e b i k y;f e b i k y;n g e b i k y;j nv e;f nv e;n g nv e",
    "jc ALL;COMPLEMENT;PARTIAL DIFFERENTIAL;THERE EXISTS;THERE lw fh EXIST;ig SET;INCREMENT;NABLA",
    "fk OF;fh AN fk OF;d fk OF;gl AS sf;lw fh tt AS sf;d gl AS sf;tj OF PROOF;gp fo;gp yt;gp kc",
    "fm v;MINUS-OR-PLUS v;bl fz;hh lo;SET fm;cd aq;el aq;gc aq;x ROOT;CUBE ROOT;FOURTH ROOT",
    "PROPORTIONAL TO;ld;g ca;ca;lg ca;qr ca;DIVIDES;lw fh wm;gq TO;fh gq TO;cb h;cb OR;bo;fs;bw",
    "i bw;ct bw;tu bw;SURFACE bw;VOLUME bw;dd bw;dd tu bw;bc tu bw;THEREFORE;BECAUSE;RATIO;xp",
    "bl fm;EXCESS;GEOMETRIC xp;xa;av aq;ap av;bp LAZY S;SINE ls;WREATH fo;fh av;fm av;rb ah TO",
    "fh rb ah TO;fx ah TO;fx wa fh zt ah TO;hy fx vg zt ah TO;ft ah TO;fh ft ah TO;ft ah OR ah TO",
    "ct av;ALL ah TO;cx TO;tk cx TO;DIFFERENCE pk;APPROACHES tm LIMIT;tk ah TO",
    "fx ah TO OR tm lc OF;lc OF OR fx ah TO;jb co;co jb;el IN ah TO;el ah TO;CORRESPONDS TO",
    "ESTIMATES;EQUIANGULAR TO;em co;mc ah TO;ah TO BY DEFINITION;lg BY;QUESTIONED ah TO;fh ah TO",
    "mh TO;fh mh TO;STRICTLY cx TO;ag OR ah TO;u OR ah TO;ag ic ah TO;u ic ah TO;ag wa fh ah TO",
    "u wa fh ah TO;MUCH ag;MUCH u;pk;fh cx TO;fh ag;fh u;hy ag vg ah TO;hy u vg ah TO;ag OR cx TO",
    "u OR cx TO;hy ag vg cx TO;hy u vg cx TO;ag OR u;u OR ag;hy ag vg u;hy u vg ag;ej;eo",
    "ej OR ah TO;eo OR ah TO;ej OR cx TO;eo OR cx TO;lw fh PRECEDE;lw fh SUCCEED;dh OF;br OF",
    "fh A dh OF;fh A br OF;dh OF OR ah TO;br OF OR ah TO;hy A dh OF vg ah TO;hy A br OF vg ah TO",
    "dh OF b fh ah TO;br OF b fh ah TO;si;si bx;si fs;x lc OF;x lj OF;x lc OF OR ah TO",
    "x lj OF OR ah TO;x CAP;x CUP;am fz;am fm;am lq;am hh lo;am bl aq;am el aq;am cd aq;am co",
    "am et;ex fz;ex fm;ex lq;ex bl aq;g fp;n fp;ax fp;UP fp;ASSERTION;MODELS;TRUE;FORCES",
    "ct k dc g gj;i k dc i g gj;lw fh PROVE;fh TRUE;lw fh FORCE;NEGATED i k dc i g gj;ej UNDER oa",
    "eo UNDER oa;il hn OF;gl AS il hn;il hn OF OR ah TO;gl AS il hn OR ah TO;lj OF;lc OF;sh",
    "HERMITIAN CONJUGATE MATRIX;INTERCALATE;XOR;NAND;vg;g ca b na;g ac;gp cb h;gp cb OR;gp bo",
    "gp fs;bj aq;bl aq;em aq;hh lq;rf;n il FACTOR jj fo;g il FACTOR jj fo;n jj fo;g jj fo;ap av co",
    "er cb OR;er cb h;i dh;i br;i bo;i fs;ze;ah h gq TO;ag b bl;u b bl;uu MUCH ag;uu MUCH u",
    "ag ah TO OR u;u ah TO OR ag"]⟩,
  ⟨8924, "ah TO OR ", ["ag;u;ej;eo"]⟩,
  ⟨8928, "", ["lw fh PRECEDE OR ah;lw fh SUCCEED OR ah;fh x lc OF OR ah TO;fh x lj OF OR ah TO",
    "x lc OF OR fh ah TO;x lj OF OR fh ah TO;ag wa fh cx TO;u wa fh cx TO;ej wa fh cx TO",
    "eo wa fh cx TO;fh il hn OF;lw fh tt AS il hn;fh il hn OF OR ah TO;lw fh tt AS il hn OR ah",
    "k la;MIDLINE o la;UP g ce la;ax g ce la;fk OF b dz o y;fk OF b k dc AT tj OF o y",
    "d fk OF b k dc AT tj OF o y;fk OF b bl l;fk OF b fn;d fk OF b fn;fk OF b bz",
    "fk OF b ey o STROKES;gl b dz o y;gl b k dc AT tj OF o y;d gl b k dc AT tj OF o y;gl b fn",
    "d gl b fn;Z eh BAG MEMBERSHIP;DIAMETER v;ni e;rz;UP bd;ax bd;PROJECTIVE;PERSPECTIVE;WAVY de",
    "n CEILING;g CEILING;n FLOOR;g FLOOR;dr g CROP;dr n CROP;kd g CROP;kd n CROP;ap fh v;x iw;na",
    "SEGMENT;SECTOR;eb RECORDER;sq jy;VIEWDATA x;qd OF INTEREST v;bk fh v;WATCH;mg;kd n dk;kd g dk",
    "dr n dk;dr g dk;kd ci bw;dr ci bw;FROWN;SMILE;UP bd pk ey o BARS;OPTION xe;ERASE TO tm g",
    "X IN A ix mm;le;bf ca ab;aw ca ab;ERASE TO tm n;BENZENE el;CYLINDRICITY;ALL AROUND-PROFILE",
    "SYMMETRY;TOTAL RUNOUT;DIMENSION ORIGIN;CONICAL TAPER;SLOPE;COUNTERBORE;COUNTERSINK"]⟩,
  ⟨9014, "APL wu r ", ["I-BEAM;SQUISH gr;gr ah;gr wm;gr bj;gr JOT;gr ad;ad qh;ad JOT;lo dc;jv dc",
    "gr lo;gr jv;gr ag;gr u;j VANE;f VANE;gr j e;gr f e;ad jv;ax fp bz;mc qh;gr ax pl;gr mc",
    "ax fp JOT;aj VANE;gr aj e;UP fp fn;DEL qh;gr UP pl;gr DEL;UP fp JOT;aa VANE;gr aa e;QUOTE bz",
    "mc bz;bj bz;JOT bz;ad bz;UP sy JOT;QUOTE gr;ad em;gr jb;UP fp z;DEL z;em z;JOT z;ad z",
    "ax sy qh;n sy qh;av z;u z;dx dc;DEL av;ZILDE;qh av;mk bz;gr fh ah;gr ek;ax pl av;UP pl av;hj",
    "xv;ei;fb bz;fl bz;hj bz;ei bz;fb"]⟩,
  ⟨9083, "", ["fh ma bb;g ca b aa pi e;SHOULDERED dl mm;rd r;k de b da bl;za r;CONTINUOUS zo r",
    "DISCONTINUOUS zo r;EMPHASIS r;ne r;q x b jh k de;ENTER r;ALTERNATIVE xe r;HELM r",
    "am o dc b NOTCH;am ac ax;rg ad b NORTHWEST e;UNDO r;MONOSTABLE r;HYSTERESIS r;oj H-TYPE r",
    "oj L-TYPE r;PASSIVE-PULL-DOWN-OUTPUT r;PASSIVE-PULL-UP-OUTPUT r;DIRECT CURRENT r jw ey",
    "SOFTWARE-FUNCTION r;APL wu r gr;DECIMAL ff xe r;PREVIOUS nw;NEXT nw;PRINT sw r;CLEAR sw r",
    "n ba ck az;n ba gi;n ba bh az;g ba ck az;g ba gi;g ba bh az;n x ab ck dk;n x ab gi",
    "n x ab bh dk;g x ab ck dk;g x ab gi;g x ab bh dk;n er ab ck az;n er ab da ny;n er ab bh az",
    "er ab gi;g er ab ck az;g er ab da ny;g er ab bh az;bw gi;o de gi;ck n OR bh g er ab up",
    "ck g OR bh n er ab up;kc kd;kc dr;kd x ab;dr x ab;dr x ab ic kd x ab;RADICAL r dr;n k mm de",
    "g k mm de"]⟩,
  ⟨9146, "o SCAN ", ["LINE-1;LINE-3;LINE-7;LINE-9"]⟩,
  ⟨9150, "DENTISTRY r ao ", ["k h kd g;k h dr g;k b ad;ax h o b ad;UP h o b ad;k b ac;ax h o b ac",
    "UP h o b ac;k h ls;ax h o b ls;UP h o b ls;ax h o;UP h o;k h kd n;k h dr n"]⟩,
  ⟨9165, "", ["x FOOT;su r;EJECT r;k de gi;go bq;go dz ic es;go es ic dz;go dz ic ey sz",
    "go ey sz ic dz;go ey sz ov;go TRISEME;go TETRASEME;go PENTASEME;pr GROUND;FUSE;kd ba;dr ba",
    "kd er ab;dr er ab;kd ev gy ab;dr ev gy ab;q TRAPEZIUM;BENZENE el b ad;STRAIGHTNESS;FLATNESS",
    "AC CURRENT;ELECTRICAL bo;DECIMAL EXPONENT r;m aw i ac;m bf i ac;m cn i ac;m cr i ac",
    "m aw i ac b k dc;m bf i ac b k dc;m aw ac b i k dc;ALARM uy;STOPWATCH;TIMER uy",
    "mg b FLOWING SAND;m cp bf ac;m cp aw ac;m cp cn ac;m cp cr ac;i k dc;m x jc en;m ad jc RECORD",
    "vj r;vj ON-OFF r;vj ON r;vj SLEEP r;OBSERVER EYE r"]⟩,
  ⟨9216, "r jc ", ["NULL;START OF HEADING;START OF yh;tj OF yh;tj OF ut;ENQUIRY;ux;rd;BACKSPACE",
    "o yg;de FEED;k yg;jw FEED;CARRIAGE su;SHIFT OUT;SHIFT IN;DATA LINK ESCAPE;rp km gb;rp km ey",
    "rp km bu;rp km dt;ik ux;SYNCHRONOUS IDLE;tj OF ut fr;CANCEL;tj OF cp;yd;ESCAPE;wo ff;GROUP ff",
    "RECORD ff;UNIT ff;gf;DELETE"]⟩,
  ⟨9250, "", ["BLANK r;dl mm;r jc uh;r jc DELETE jw ey;r jc yd jw ey"]⟩,
  ⟨9280, "OCR ", ["az;CHAIR;FORK;bp FORK;BELT BUCKLE;BOW TIE;BRANCH BANK sa;AMOUNT OF ma;et",
    "CUSTOMER ACCOUNT hd;i jv"]⟩,
  ⟨9312, "am bs ", ["gb;ey;bu;dt;fq;ln;fg;dv;ib"]⟩,
  ⟨9321, "am hd ", ["ra;kz;ke;od;nl;pt;mx;ml;kx;nt;pf"]⟩,
  ⟨9332, "ly bs ", ["gb;ey;bu;dt;fq;ln;fg;dv;ib"]⟩,
  ⟨9341, "ly hd ", ["ra;kz;ke;od;nl;pt;mx;ml;kx;nt;pf"]⟩,
  ⟨9352, "bs ", ["gb fu en;ey fu en;bu fu en;dt fu en;fq fu en;ln fu en;fg fu en;dv fu en;ib fu en"]⟩,
  ⟨9361, "hd ", ["ra fu en;kz fu en;ke fu en;od fu en;nl fu en;pt fu en;mx fu en;ml fu en;kx fu en",
    "nt fu en;pf fu en"]⟩,
  ⟨9372, "ly dq d a ", ["A;B;C;D;E;F;G;H;I;J;K;L;M;N;O;P;Q;R;S;T;U;V;W;X;Y;Z"]⟩,
  ⟨9398, "am dq c a ", ["A;B;C;D;E;F;G;H;I;J;K;L;M;N;O;P;Q;R;S;T;U;V;W;X;Y;Z"]⟩,
  ⟨9424, "am dq d a ", ["A;B;C;D;E;F;G;H;I;J;K;L;M;N;O;P;Q;R;S;T;U;V;W;X;Y;Z"]⟩,
  ⟨9450, "am bs ", ["lt"]⟩, ⟨9451, "ik am hd ", ["kz;ke;od;nl;pt;mx;ml;kx;nt;pf"]⟩,
  ⟨9461, "i am bs ", ["gb;ey;bu;dt;fq;ln;fg;dv;ib"]⟩, ⟨9470, "", ["i am hd ra;ik am bs lt"]⟩,
  ⟨9472, "mm DRAWINGS ", ["ao o;w o;ao k;w k;ao ct et o;w ct et o;ao ct et k;w ct et k;ao fe et o",
    "w fe et o;ao fe et k;w fe et k;ao ax h g;ax ao h g w;ax w h g ao;w ax h g;ao ax h n",
    "ax ao h n w;ax w h n ao;w ax h n;ao UP h g;UP ao h g w;UP w h g ao;w UP h g;ao UP h n",
    "UP ao h n w;UP w h n ao;w UP h n;ao k h g;k ao h g w;UP w h g ax ao;ax w h g UP ao;k w h g ao",
    "ax ao h g UP w;UP ao h g ax w;w k h g;ao k h n;k ao h n w;UP w h n ax ao;ax w h n UP ao",
    "k w h n ao;ax ao h n UP w;UP ao h n ax w;w k h n;ao ax h o;n w h g ax ao;g w h n ax ao",
    "ax ao h o w;ax w h o ao;g ao h n ax w;n ao h g ax w;w ax h o;ao UP h o;n w h g UP ao",
    "g w h n UP ao;UP ao h o w;UP w h o ao;g ao h n UP w;n ao h g UP w;w UP h o;ao k h o",
    "n w h g k ao;g w h n k ao;k ao h o w;UP w h ax o ao;ax w h UP o ao;k w h o ao",
    "n UP w h g ax ao;g UP w h n ax ao;n ax w h g UP ao;g ax w h n UP ao;ax ao h UP o w",
    "UP ao h ax o w;g ao h n k w;n ao h g k w;w k h o;ao i et o;w i et o;ao i et k;w i et k;i o",
    "i k;ax db h g i;ax i h g db;i ax h g;ax db h n i;ax i h n db;i ax h n;UP db h g i;UP i h g db",
    "i UP h g;UP db h n i;UP i h n db;i UP h n;k db h g i;k i h g db;i k h g;k db h n i;k i h n db",
    "i k h n;ax db h o i;ax i h o db;i ax h o;UP db h o i;UP i h o db;i UP h o;k db h o i",
    "k i h o db;i k h o;ao na ax h g;ao na ax h n;ao na UP h n;ao na UP h g;ao ce ck g TO bh n",
    "ao ce ck n TO bh g;ao ce do;ao n;ao UP;ao g;ao ax;w n;w UP;w g;w ax;ao n h w g;ao UP h w ax",
    "w n h ao g;w UP h ao ax"]⟩,
  ⟨9600, "", ["ck ci fr;bh gb ky fr;bh gb gx fr;bh bu hw fr;bh ci fr;bh fq hw fr;bh bu st fr",
    "bh fg hw fr;fu fr;n fg hw fr;n bu st fr;n fq hw fr;n ci fr;n bu hw fr;n gb gx fr;n gb ky fr",
    "g ci fr;ao SHADE;cp SHADE;DARK SHADE;ck gb ky fr;g gb ky fr;dm bh n;dm bh g"]⟩,
  ⟨9624, "dm ck ", ["n;n h bh n h bh g;n h bh g;n h ck g h bh n;n h ck g h bh g;g;g h bh n",
    "g h bh n h bh g"]⟩,
  ⟨9632, "", ["m x;q x;q x b un tv;q x oo m d x;x b o qm;x b k qm;x b ORTHOGONAL wf qm",
    "x b ck n TO bh g qm;x b ck g TO bh n qm;x b ce wf qm;m d x;q d x;m ix;q ix;m k ix;q k ix;m tl",
    "q tl;m cn ac;q cn ac;m cn d ac;q cn d ac;m aw ac;q aw ac;m aw d ac;q aw d ac;m aw qe;q aw qe",
    "m cr ac;q cr ac;m cr d ac;q cr d ac;m bf ac;q bf ac;m bf d ac;q bf d ac;m bf qe;q bf qe;m bj",
    "q bj;q bj oo m d bj;FISHEYE;iw;q ad;hv ad;ad b k qm;BULLSEYE;m ad;ad b n ci m;ad b g ci m",
    "ad b bh ci m;ad b ck ci m;ad b ck g dm m;ad b ALL wa ck n dm m;n ci m ad;g ci m ad;px gc",
    "px q ad;ck ci px q ad;bh ci px q ad;ck n dm nd na;ck g dm nd na;bh g dm nd na;bh n dm nd na",
    "ck ci ad;bh ci ad;m bh g ac;m bh n ac;m ck n ac;m ck g ac;q gc;x b n ci m;x b g ci m",
    "x b ck n ce ci m;x b bh g ce ci m;q x b k BISECTING de;q cn ac b bl;cn ac b n ci m",
    "cn ac b g ci m;gn ad;q x b ck n dm;q x b bh n dm;q x b bh g dm;q x b ck g dm;q ad b ck n dm",
    "q ad b bh n dm;q ad b bh g dm;q ad b ck g dm;ck n ac;ck g ac;bh n ac;q cp x;m cp x;q cp d x",
    "m cp d x;bh g ac;m ye b ul;kh;lr;uq;COMET;m em;q em;jz;THUNDERSTORM;ye;yo NODE;wk NODE",
    "CONJUNCTION;OPPOSITION;m eb;q eb;gk mm;gk mm b ma;gk mm b X;uo;lr b xt DROPS;HOT zv;q vp ny",
    "m vp ny;SHAMROCK;ap kp wr dy gc;m n ai dw;m g ai dw;q n ai dw;q UP ai dw;q g ai dw;q ax ai dw",
    "SKULL h we;CAUTION v;RADIOACTIVE v;BIOHAZARD v;CADUCEUS;ANKH;ORTHODOX do;CHI xv",
    "do OF LORRAINE;do OF JERUSALEM;em h nf;FARSI r;ADI SHAKTI;rw h SICKLE;PEACE r;YIN ym",
    "iz jc HEAVEN;iz jc LAKE;iz jc wq;iz jc THUNDER;iz jc qv;iz jc oh;iz jc jp;iz jc pr",
    "WHEEL OF DHARMA;q nm an;q cu an;m cu an;q ye b ul;ru gx ia;LAST gx ia;MERCURY;or v;pr;ow v",
    "JUPITER;SATURN;URANUS;NEPTUNE;so;ARIES;TAURUS;GEMINI;CANCER;LEO;VIRGO;LIBRA;SCORPIUS",
    "SAGITTARIUS;CAPRICORN;AQUARIUS;PISCES;q ja KING;q ja QUEEN;q ja ROOK;q ja BISHOP;q ja KNIGHT",
    "q ja PAWN;m ja KING;m ja QUEEN;m ja ROOK;m ja BISHOP;m ja KNIGHT;m ja PAWN;m SPADE pd;q dy pd",
    "q bj pd;m CLUB pd;q SPADE pd;m dy pd;m bj pd;q CLUB pd;HOT SPRINGS;gx nu;ky nu;rc ky sk",
    "rc SIXTEENTH sk;MUSIC FLAT v;MUSIC NATURAL v;MUSIC SHARP v;eg SYRIAC do;dg SYRIAC do;zp qp r"]⟩,
  ⟨9843, "qp r jc ", ["TYPE-1 io;TYPE-2 io;TYPE-3 io;TYPE-4 io;TYPE-5 io;TYPE-6 io;TYPE-7 io",
    "GENERIC MATERIALS"]⟩,
  ⟨9851, "", ["m zp qp r;RECYCLED vh r;PARTIALLY-RECYCLED vh r;PERMANENT vh v;ph r;DIE FACE-1",
    "DIE FACE-2;DIE FACE-3;DIE FACE-4;DIE FACE-5;DIE FACE-6;q ad b bl g;q ad b ey if;m ad b q bl g",
    "m ad b ey q if;MONOGRAM jc ym;MONOGRAM jc YIN;rq jc GREATER ym;rq jc LESSER YIN",
    "rq jc LESSER ym;rq jc GREATER YIN;q lx;m lx;rw h PICK;ANCHOR;pm SWORDS;STAFF OF AESCULAPIUS",
    "SCALES;ALEMBIC;os;GEAR;STAFF OF HERMES;ATOM r;FLEUR-DE-LIS;im q em;bu LINES wd g",
    "bu LINES wd n;WARNING v;ub VOLTAGE v;ty or v;ty ow v;INTERLOCKED or h ow v;ow h or v;ow b y v",
    "ow b y h ow h or v;k ow b y v;o ow b y v;cp q ad;cp m ad;cp d q ad;MARRIAGE r;DIVORCE r",
    "UNMARRIED PARTNERSHIP r;COFFIN;FUNERAL URN;NEUTER;CERES;PALLAS;JUNO;VESTA;CHIRON;m ia LILITH",
    "SEXTILE;SEMISEXTILE;QUINCUNX;SESQUIQUADRATE;SOCCER lu;BASEBALL;ex xe;q nh ug;q nh KING",
    "m nh ug;m nh KING;uq qi SNOW;ye vy kh;xt;m uq;THUNDER kh h xt;bk q vp ny;bk m vp ny;q bj IN x",
    "fi LANES;DISABLED CAR;OPHIUCHUS;PICK;CAR SLIDING;HELMET b q do;am fi LANES;CHAINS;NO ENTRY",
    "ALTERNATE ONE-WAY n WAY my;m TWO-WAY n WAY my;q TWO-WAY n WAY my;m n LANE MERGE",
    "q n LANE MERGE;DRIVE SLOW v;w q cr ac;n df ENTRY;ex uo;jl ce IN q ad IN m x;m TRUCK",
    "xu n ENTRY-1;xu n ENTRY-2;ASTRONOMICAL r jc URANUS;w ad b y h ey if l;mi;RIGHT-HANDED xb mi",
    "LEFT-HANDED xb mi;bp mi;m do ON SHIELD;SHINTO SHRINE;CHURCH;wc;HISTORIC SITE;GEAR qi HUB",
    "GEAR b HANDLES;MAP r jc LIGHTHOUSE;jp;lr ON GROUND;FOUNTAIN;lx IN HOLE;FERRY;SAILBOAT;x dt tv",
    "SKIER;ICE SKATE;ec b lu;TENT;hk BANK r;yz GRAVEYARD r;FUEL PUMP;CUP ON m x",
    "q lx b o da m STRIPE;m xx ll;ck BLADE ll;m ll;bh BLADE ll;q ll;q w ma bb;eb LOCATION v",
    "TAPE DRIVE;hf;gm;ip FIST;ip fw;VICTORY fw;WRITING fw;bh g sm;sm;ck g sm;q NIB;m NIB;ma bb",
    "w ma bb;bx X;w bx X;gk X;w gk X;im bv do;w bv do;dl jh do;w dl jh do;dq do;gs q dq do",
    "im dq do;MALTESE do;em OF DAVID;dt ea cd;dt kt cd;w dt kt cd;dt CLUB-SPOKED cd;m dt eq em",
    "q dt eq em;SPARKLES;STRESS im q em;am q em;dl jh m em;m jh q em;im m em;w im m em;sn em",
    "gs q em;w cd;dl jh cd;dv SPOKED cd;dv eq m em;dv eq sn em;ln eq m em;dv eq vl m em",
    "w dv eq vl m em;ke eq m em;mx eq cd;ea cd;dl jh ea cd;w ea cd;ln PETALLED m h q nk;m nk;q nk",
    "dv PETALLED im m nk;am dl jh dv eq em;w ea sn cd;qq;TIGHT TRIFOLIATE qq;w CHEVRON qq;SPARKLE",
    "w SPARKLE;kt cd;dv ea zh cd;w dv ea zh cd;do bb;gs q ad;ik ex do bb;bh g ti q x;ck g ti q x",
    "bh g gs q x;ck g gs q x;m ek bb at;q ek bb at;q di bb at;m bj fm q X;w di bb r;ao k dc",
    "cp k dc;w k dc;w db bk dx be bb at;w db dx be bb at;w i bk dx be bb at;w i dx be bb at",
    "w kn db dx be bb at;w kn i dx be bb at;ms yc zd v at;w di bb at;w dy di bb at;w m dy",
    "kp w m dy gc;wr dy;kp wr dy gc;cp n ba at;cp g ba at;cp md n ba at;cp md g ba at",
    "cp bf ca ab at;cp aw ca ab at;w bf ca be bb at;w aw ca be bb at;w bf ca ab at;w aw ca ab at",
    "ao n ev gy ab at;ao g ev gy ab at;cp n er ab at;cp g er ab at"]⟩]

/-- Names from U+2776 to U+1FAF6. -/
def namesFrom2776 : List NameRun := [
  ⟨10102, "pp ik am ", ["bs gb;bs ey;bs bu;bs dt;bs fq;bs ln;bs fg;bs dv;bs ib;hd ra"]⟩,
  ⟨10112, "pp am ds ", ["bs gb;bs ey;bs bu;bs dt;bs fq;bs ln;bs fg;bs dv;bs ib;hd ra"]⟩,
  ⟨10122, "pp ik am ds bs ", ["gb;ey;bu;dt;fq;ln;fg;dv;ib"]⟩,
  ⟨10131, "", ["pp ik am ds hd ra;w WIDE-HEADED f e;w fz v;w fm v;w hh v;w cm dg e;w f e;w bt dg e",
    "DRAFTING fd f e;w ROUND-TIPPED f e;p f e;w p f e;ie p f e;w ie p f e;m f e;kq of f bd",
    "kq BOTTOM-LIGHTED f bd;m f bd;w m ms aa h f e;w m ms aj h f e;SQUAT m f e",
    "w CONCAVE-POINTED m f e;RIGHT-SHADED q f e;LEFT-SHADED q f e;BACK-TILTED gs q f e",
    "FRONT-TILTED gs q f e;w bh iq q f e;w ck iq q f e;ko bh iq q f e;er sd;ko ck iq q f e",
    "am w q f e;WHITE-FEATHERED f e;ew cm dg e;ew f e;ew bt dg e;w ew cm dg e;w ew f e",
    "w ew bt dg e;TEARDROP-BARBED f e;w TEARDROP-SHANKED f e;uv f e;w uv f e;OPEN-OUTLINED f e",
    "i er sd;bu DIMENSIONAL ca;q ac oo d q ac;lz;dl dh;dl br;n S-SHAPED BAG qk;g S-SHAPED BAG qk",
    "OR b bl hx;ef dn zf dh;br zf dn;k dc b o y;cs kb ce;dz hh;cs jl ce;ex cb h;ex cb OR",
    "q bj b ht bl;h b bl;fk OF jr aj;bh g dk b bl;ck n dk b bl;n OUTER JOIN;g OUTER JOIN",
    "fu OUTER JOIN;gn UP fp;gn ax fp;n h g i gj;n h g fp;n sh;dz g fp;dz n fp;UP fp b ad l",
    "iw tx BY o RULE;q lv bj;q lv bj b j oe;q lv bj b f oe;q x b j oe;q x b f oe;cs n q x ab",
    "cs g q x ab;cs n ca ab;cs g ca ab;cs n i ca ab;cs g i ca ab;cs n q ev gy ab;cs g q ev gy ab",
    "cs n md ba;cs g md ba;aj fe e;aa fe e;bc GAPPED ad e;dd GAPPED ad e;g e b am fz"]⟩,
  ⟨10229, "dz ", ["j e;f e;n g e;j i e;f i e;n g i e;j e gd dc;f e gd dc;j i e gd dc;f i e gd dc",
    "f oc e"]⟩,
  ⟨10496, "", ["f by e b k y;f by e b i k y;j i e b k y;f i e b k y;n g i e b k y;f by e gd dc",
    "j i e gd dc;f i e gd dc;aa e b o y;aj e b o y;aj ct e;aa ct e;j i et e;f i et e;j ct et e",
    "f ct et e;f by ct et e;f e b hv yc;aj e TO dc;aa e TO dc;f e b eu b k y;f e b eu b i k y",
    "f by e b eu;f by e b eu b k y;f by e b eu b i k y;j kr;f kr;j i kr;f i kr;j e TO m bj",
    "f e TO m bj;j e gd dc TO m bj;f e gd dc TO m bj;bt eg h cm dg e;bt dg h cm eg e;bt eg e b az",
    "bt dg e b az;cm dg e b az;cm eg e b az;bt eg e h bt dg e;bt dg e h cm dg e;cm dg e h cm eg e",
    "cm eg e h bt eg e;kb ce fi jl ce;jl ce fi kb ce;cm dg e fi bt dg e;bt dg e fi cm dg e",
    "jl ce fi bt dg e;kb ce fi cm dg e;bt dg e fi bt eg e;bt eg e fi bt dg e;ls e ai DIRECTLY g",
    "e ai f ur pn aj;e ai f ur pn aa;e ai aa ur pn j;e ai aa ur pn f;RIGHT-SIDE na dd e",
    "LEFT-SIDE na bc e;kd na bc e;dr na bc e;kd na dd e b fm;kd na bc e b fz;bh g mw dd e",
    "bh n mw bc e;bc df ad e;dd df ad e;f e l es j e;j e l es f e;es f e l j e;f e b fz t",
    "j e b fz t;f e iy X;n g e iy d ad;aj by e gd d ad;n cl UP g cl ax al;n cl ax g cl UP al",
    "UP cl g ax cl n al;UP cl n ax cl g al;n cl UP g cl UP al;UP cl g ax cl g al",
    "n cl ax g cl ax al;UP cl n ax cl n al;j al b cl UP TO dc;f al b cl UP TO dc",
    "aj al b cl g TO dc;aa al b cl g TO dc;j al b cl ax TO dc;f al b cl ax TO dc",
    "aj al b cl n TO dc;aa al b cl n TO dc;j al b cl UP gd dc;f al b cl UP gd dc",
    "aj al b cl g gd dc;aa al b cl g gd dc;j al b cl ax gd dc;f al b cl ax gd dc",
    "aj al b cl n gd dc;aa al b cl n gd dc;j al b cl UP l j al b cl ax",
    "aj al b cl n hr aj al b cl g;f al b cl UP l f al b cl ax;aa al b cl n hr aa al b cl g",
    "j al b cl UP l f al b cl UP;j al b cl ax l f al b cl ax;f al b cl UP l j al b cl UP",
    "f al b cl ax l j al b cl ax;j al b cl UP l dz et;j al b cl ax t dz et;f al b cl UP l dz et",
    "f al b cl ax t dz et;aj al b cl n hr aa al b cl g;aa al b cl n hr aj al b cl g",
    "g i e b un HEAD;co v l f e;av aq l f e;j e l av aq;f e l av aq;f e l ft ah TO;ag l j e",
    "j e iy ag;u l f e;dh l f e;j e iy dh;br l j e;n qn eu;g qn eu;UP qn eu;ax qn eu;ct k dc qk",
    "Z eh SPOT;Z eh TYPE jb;n q er ab;g q er ab;n q ba;g q ba;Z eh n lc ab;Z eh g lc ab",
    "Z eh n BINDING ab;Z eh g BINDING ab;n x ab b bz;g x ab b bz;n x ab b oe IN kd dk",
    "g x ab b oe IN dr dk;n x ab b oe IN dr dk;g x ab b oe IN kd dk;n ca ab b bl;g ca ab b bl",
    "n na ag ab;g na u ab;i n na u ab;i g na ag ab;n m ev gy ab;g m ev gy ab;hv rt;k pi de",
    "lg ca jr n;g ca VARIANT b x;lg g ca b bl;ca b S hx;ar ca;qr ca jr n;qr ca jr UP;bk ca;ap ca",
    "ca b bz;ap ca b bz;OBLIQUE ca jr UP;OBLIQUE ca jr ax"]⟩,
  ⟨10664, "lg ca b dl ARM ENDING IN e ai ", ["UP h g;UP h n;ax h g;ax h n;g h UP;n h UP;g h ax",
    "n h ax"]⟩,
  ⟨10672, "", ["ap ig SET;ig SET b fn;ig SET b d ad l;ig SET b g e l;ig SET b n e l;ad b o dc",
    "am k dc;am gq;am ef dn;am lz;ad tx BY o dc h kd ci tx BY k dc;ad b SUPERIMPOSED X",
    "am ANTICLOCKWISE-ROTATED hh v;UP e iy ad;am q gc;am gc;am ag;am u;ad b d ad TO tm g",
    "ad b ey o STROKES TO tm g;ex kb ce lo;ex jl ce lo;ex cd;ex d ad;ex x;ey ov qg;ac b bl l",
    "ac b bz;S IN ac;ac b sx AT dr;g ac l n ac;n ac hr k dc;k dc hr g ac;rf b n ci m;rf b g ci m",
    "m rf;lq b n ci m;lq b g ci m;q mg;m mg;n tf rt;g tf rt;n i tf rt;g i tf rt;INCOMPLETE ld",
    "TIE ic ld;ld NEGATED b k dc;DOUBLE-ENDED sh;x b CONTOURED OUTLINE;INCREASES AS;SHUFFLE fo",
    "co v h ch gq;co v h ch gq b av l;mh TO h ch gq;GLEICH STARK;THERMODYNAMIC;cr ac b n ci m",
    "cr ac b g ci m;m bj b ax e;m iw;q ad b ax e;m ad b ax e;gg q x;gg m x;gg q bj;gg m bj;gg q ad",
    "gg m ad;RULE-DELAYED;ef dn aq;dn b fn;ef dn b o y;BIG dn;BIG ef dn;i fz;ct fz;bf ms ca ab",
    "aw ms ca ab;TINY;MINY;gp am bl aq;gp am fz aq;gp am lq aq;gp fs aq b bl;gp fs aq b fz",
    "gp x bo aq;gp x fs aq;ey cb h aq;ey cb OR aq;gp lq aq;MODULO ey SUM;kc b bw;fe bw aq",
    "FINITE PART bw;bw b i y;bw AVERAGE b lo;CIRCULATION FUNCTION;bc ki",
    "de ki b RECTANGULAR PATH vv xn;de ki b mw PATH vv xn;de ki fh INCLUDING tm xn;bw vv A fd aq",
    "QUATERNION bw aq;bw b j e b az;bw b lq v;bw b bo;bw b fs;bw b fn;bw b bz;JOIN;gn n ac aq",
    "Z eh xy ne;Z eh xy PIPING;Z eh xy PROJECTION"]⟩,
  ⟨10786, "fz v b ", ["d ad l;s cv l;av l;bl t;av t;qt ey;m ac"]⟩,
  ⟨10793, "fm v b ", ["dx l;bl t;jl if;kb if"]⟩,
  ⟨10797, "", ["fz v IN n ci ad;fz v IN g ci ad;VECTOR OR do fo;bx v b bl l;bx v b bz;jj fo b dr df",
    "SMASH fo;bx v IN n ci ad;bx v IN g ci ad;am bx v b s cv;bx v IN i ad;am hh v;fz v IN ac",
    "fm v IN ac;bx v IN ac;INTERIOR fo;RIGHTHAND INTERIOR fo;Z eh RELATIONAL ne;AMALGAMATION OR yt",
    "bo b bl;fs b fm v;fs b fn;bo b fn;bo b cb h;fs b cb OR;fs l bo;bo l fs;fs l dc l bo",
    "bo l dc l fs;fs hr h ov b fs;bo hr h ov b bo;df fs b sx;df bo b sx;i x bo;i x fs",
    "df fs b sx h SMASH fo;cb h b bl l;cb OR b bl l;i cb h;i cb OR;ey ud cb h;ey ud cb OR",
    "SLOPING gn OR;SLOPING gn h;cb OR in cb h;cb h b da yc;cb OR b da yc;cb h b o et;cb OR b o et",
    "cb h b i fn;cb h b bz;cb h b i bz;d VEE b bz;cb OR b i fn;cb OR b i bz;Z eh DOMAIN qw",
    "Z eh RANGE qw;co v b bl t;mh b bl l;ct o dc b i k y;ct o dc b ct k y;av aq b bl l",
    "av aq b kb if;gz fm gz;CONGRUENT b bl l;co b cd;ft ah TO b s cv;fx ah OR ah TO;co v l fz v",
    "fz v l co v;co v l av aq;i jb ah;ey uz co SIGNS;bu uz co SIGNS;co v b ey if l h ey if t",
    "cx b dt if l;ag b ad hx;u b ad hx;ag b ek bb l;u b ek bb l;ag OR ch ah TO;u OR ch ah TO",
    "ag OR ch ah TO b bl hx;u OR ch ah TO b bl hx;ag OR ch ah TO b bl l;u OR ch ah TO b bl l",
    "ag OR ch ah TO b bl l g;u OR ch ah TO b bl l n;ag OR kg;u OR kg;ag h ha fh ah TO",
    "u h ha fh ah TO;ag h fh kg;u h fh kg;ag l du ah l u;u l du ah l ag;ag l gz OR ah;u l gz OR ah",
    "ag l gz l u;u l gz l ag;ag l u l du ah;u l ag l du ah;ag l ch ah l u l ch ah",
    "u l ch ah l ag l ch ah;ch ah TO OR ag;ch ah TO OR u;ch ah TO OR ag b bl hx",
    "ch ah TO OR u b bl hx;du ah TO OR ag;du ah TO OR u;du ch ah TO OR ag;du ch ah TO OR u",
    "gz OR ag;gz OR u;gz l ag l co v;gz l u l co v;i oz ag;i oz u;i oz ag b bz;u in ag;u hr ag",
    "ag df BY va;u df BY va;ag df BY va l ch ah;u df BY va l ch ah;SMALLER yj;LARGER yj",
    "SMALLER yj OR ah TO;LARGER yj OR ah TO;co v b BUMPY l;ej l ha co v;eo l ha co v",
    "ej l ha fh ah TO;eo l ha fh ah TO;ej l co v;eo l co v;ej l fh ah TO;eo l fh ah TO",
    "ej l ft ah TO;eo l ft ah TO;ej l fh ft ah TO;eo l fh ft ah TO;i ej;i eo;dh b bl;br b bl",
    "dh b fz v t;br b fz v t;dh b bx v t;br b bx v t;dh OF OR ah TO b bl l;br OF OR ah TO b bl l",
    "dh OF l co v;br OF l co v;dh OF l av aq;br OF l av aq;dh OF l ft ah TO;br OF l ft ah TO",
    "dh OF l fh ah TO;br OF l fh ah TO;x n dl mm aq;x g dl mm aq;df dh;df br;df dh OR ah TO",
    "df br OR ah TO;dh l br;br l dh;dh l dh;br l br;br hr dh;br hr h ov BY et b dh;fk OF jr aa",
    "ze b TEE kd;TRANSVERSAL bo;FORKING;NONFORKING;es n fp;es ax fp;es UP fp;lz b S;k dc ct g gj",
    "i k dc n gj;k dc i n gj;i k dc i n gj;dz et gd n sf OF i k;es ax fp b fn;es UP fp b bz",
    "es UP fp l es ax fp;i ax fp;i UP fp;i y fh v;ap i y fh v;lw fh wm b ap NEGATION lo",
    "k de b ad l;k de b ad t;ax fp b ad t;gq b o y;gq b av aq;ct k dc BINARY oa;ct k dc b o y",
    "ct jb aq;ct oz ag;ct oz u;du ch ag OR ah TO;du ch u OR ah TO;ct dn BINARY oa;gn ct k dc aq",
    "i dn aq;q k dc;gp q k dc;bt dg q e;bt eg q e;cm dg q e;cm eg q e;n g q e;j m e;aj m e;aa m e",
    "bt dg m e;bt eg m e;cm dg m e;cm eg m e;n g m e;UP ax m e;f e b pe aa;f e b pe aj;j e b pe aa",
    "j e b pe aj;x b kd ci m;x b dr ci m;x b ck g ce ci m;x b bh n ce ci m;bj b n ci m;bj b g ci m",
    "bj b kd ci m;bj b dr ci m;hv x;m gn x;q gn x;m uu d x;q uu d x;m lk;q lk;q ua;m ua;o m ua",
    "m gn ad;m cp bj;q cp bj;m cp iw;q cp iw;m d bj;m d iw;q d iw;m o ps;q o ps;m k ps;q k ps",
    "n e b d ad;bu j ez;n e b am fz;dz j oc e;j by e b k y;j by e b i k y;j by e gd dc",
    "j by ct et e;j e b hv yc;j e b eu b k y;j e b eu b i k y;j by e b eu;j by e b eu b k y",
    "j by e b eu b i k y;j e iy X;ls e ai DIRECTLY n;co v l j e;ef av aq l j e;j e l ef ft ah TO",
    "f e iy u;f e iy br;j fe e;f fe e;ef av aq l f e;f e l ef ft ah TO;av aq l j e;j e l ft ah TO",
    "j e l ef av aq;f e l ef av aq;aa p pi e;es ch bt e;es nb cm e;q cp em;m d em;q d em;m aw lk",
    "q aw lk;w gn ad;w OVAL b OVAL hx;w ad b ad hx;w ad;w am uo;ch bt e b HOOKED HEAD",
    "nb cm e b HOOKED eu;ch bt e b o eu;nb cm e b o eu;BENT e ai aa ur bt dg",
    "es BENT e ai aa ur bt dg;j p e;aj p e;f p e;aa p e;n g p e;UP ax p e;bt eg p e;bt dg p e",
    "cm dg p e;cm eg p e;j p ie e;aj p ie e;f p ie e;aa p ie e;dd p dl ad e;bc p dl ad e",
    "j p e TO dc;aj p e TO dc;f p e TO dc;aa p e TO dc"]⟩,
  ⟨11126, "", ["bt eg p e TO dc;bt dg p e TO dc;cm dg p e TO dc;cm eg p e TO dc;j p e b i o y",
    "aj p e b i o y;f p e b i o y;aa p e b i o y;o TAB xe;k TAB xe;j p e ic f p e",
    "aj p e j OF aa p e;f p e ic j p e;aa p e j OF aj p e;j p ka ez;aj p ka ez;f p ka ez",
    "aa p ka ez;j m am q e;aj m am q e;f m am q e;aa m am q e;bc p g og e;bc p dr og e;bc p n og e",
    "bc p kd og e;su n;su g;uh n;uh g;dt dk ez CIRCLING bc;f m e"]⟩,
  ⟨11159, "", ["r jc TYPE A ELECTRONICS;kq of j fc bd;kq RIGHT-LIGHTED aj fc bd;kq of f fc bd",
    "kq LEFT-LIGHTED aa fc bd;m j fc bd;m aj fc bd;m f fc bd;m aa fc bd;aa p e b dz pe j",
    "aa p e b dz pe f;aj p e b dz pe j;aj p e b dz pe f;j p e b dz pe aj;f p e b dz pe aj",
    "j p e b dz pe aa;f p e b dz pe aa"]⟩,
  ⟨11176, "m ms ", ["aa h j e;aa h f e;aj h j e;aj h f e;j h aj e;f h aj e;j h aa e;f h aa e"]⟩,
  ⟨11184, "sv e ", ["ax n;ax g;UP n;UP g;n UP;g UP;n ax;g ax"]⟩,
  ⟨11192, "", ["aj q e gd dc b o dc;UP bd IN A ix mm;in q qg;in q h m qg;in m qg;gk mm b ao X;am X",
    "am zy X;m x ht;m bj ht;bk m lk;o m OCTAGON;m OCTAGON;m cp cn ac ht;m cp cr ac ht",
    "m cp bf ac ht;m cp aw ac ht;NEPTUNE jw ey;kd ci m ad;dr ci m ad;ao dt eq m CUSP",
    "kp ao dt eq m CUSP;q dt eq CUSP;kp q dt eq CUSP;x sq jy;UNCERTAINTY v;GROUP bb;so jw ey",
    "so jw bu;so jw dt;so jw fq;TRANSPLUTO;PROSERPINA;ASTRAEA;HYGIEA;PHOLUS;NESSUS;q ia SELENA",
    "m bj ON do;TRUE ao ia ARTA;CUPIDO;HADES;ZEUS;KRONOS;APOLLON;ADMETOS;VULCANUS;POSEIDON",
    "n ci m em;g ci m em;em b n ci m;em b g ci m;j by e b ac ks;aj by e b ac ks;f by e b ac ks",
    "aa by e b ac ks;ERIS jw gb;ERIS jw ey;SEDNA"]⟩,
  ⟨11251, "RUSSIAN ASTROLOGICAL r ", ["VIGINTILE;NOVILE;QUINTILE;BINOVILE;SENTAGON;TREDECILE"]⟩,
  ⟨11257, "", ["co v b ld t;UNITED r;SEPARATED r;ty r;PASSED r;ap g ca;HELLSCHREIBER PAUSE r"]⟩,
  ⟨12288, "", ["cg gf;cg dx;cg fu en;DITTO bb;hk INDUSTRIAL STANDARD r;cg iv bb;cg CLOSING bb",
    "cg hd lt;n ca ab;g ca ab;n i ca ab;g i ca ab;n dk ab;g dk ab;n q dk ab;g q dk ab;n m lf ab",
    "g m lf ab;sr bb;GETA bb;n ev gy ab;g ev gy ab;n q lf ab;g q lf ab;n q ev gy ab;g q ev gy ab",
    "n q x ab;g q x ab;ls et;ap i je be bb;i je be bb;kn i je be bb;sr bb an"]⟩,
  ⟨12321, "no ee ", ["gb;ey;bu;dt;fq;ln;fg;dv;ib"]⟩,
  ⟨12330, "", ["cg LEVEL gt bb;cg kb gt bb;cg ql gt bb;cg ENTERING gt bb;jx db bl gt bb",
    "jx i bl gt bb;WAVY et;k xd pa bb;k xd pa b kf hb bb;k xd pa bb ck ci;k xd pa b kf hb bb ck ci",
    "k xd pa bb bh ci;am sr bb;cg TELEGRAPH de FEED ff r;no ee ra;no ee pf;no ee THIRTY;k cg iv bb",
    "MASU bb;PART ALTERNATION bb;cg zq jy;cg ci qm gf"]⟩,
  ⟨12353, "np a ", ["d A;A;d I;I;d U;U;d E;E;d O;O;KA;GA;KI;GI;KU;GU;KE;GE;KO;GO;SA;ZA;SI;ZI;SU;ZU",
    "SE;ZE;SO;ZO;TA;DA;TI;DI;d TU;TU;DU;TE;DE;TO;DO;NA;NI;NU;NE;NO;HA;BA;PA;HI;BI;PI;HU;BU;PU;HE",
    "BE;PE;HO;BO;PO;MA;MI;MU;ME;MO;d YA;YA;d YU;YU;d YO;YO;RA;RI;RU;RE;RO;d WA;WA;WI;WE;WO;N;VU",
    "d KA;d KE"]⟩,
  ⟨12441, "", ["is dp kf hb bb;is dp ob hb bb;dp kf hb bb;dp ob hb bb;np iv bb;np kf iv bb",
    "np fj YORI;dp i mu"]⟩,
  ⟨12449, "cy a ", ["d A;A;d I;I;d U;U;d E;E;d O;O;KA;GA;KI;GI;KU;GU;KE;GE;KO;GO;SA;ZA;SI;ZI;SU;ZU",
    "SE;ZE;SO;ZO;TA;DA;TI;DI;d TU;TU;DU;TE;DE;TO;DO;NA;NI;NU;NE;NO;HA;BA;PA;HI;BI;PI;HU;BU;PU;HE",
    "BE;PE;HO;BO;PO;MA;MI;MU;ME;MO;d YA;YA;d YU;YU;d YO;YO;RA;RI;RU;RE;RO;d WA;WA;WI;WE;WO;N;VU",
    "d KA;d KE;VA;VI;VE;VO"]⟩,
  ⟨12539, "", ["cy da bl;dp zg hb bb;cy iv bb;cy kf iv bb;cy fj KOTO"]⟩,
  ⟨64256, "dq d cz ", ["FF;FI;FL;FFI;FFL;dz S T;ST"]⟩,
  ⟨65024, "zq ", ["SELECTOR-1;SELECTOR-2;SELECTOR-3;SELECTOR-4;SELECTOR-5;SELECTOR-6;SELECTOR-7",
    "SELECTOR-8;SELECTOR-9;SELECTOR-10;SELECTOR-11;SELECTOR-12;SELECTOR-13;SELECTOR-14;SELECTOR-15",
    "SELECTOR-16"]⟩,
  ⟨65279, "lt vt sj ", ["gf"]⟩,
  ⟨65281, "it ", ["di bb;be bb;hd v;rr v;PERCENT v;ju;hp;n ba;g ba;cd;fz v;dx;uc;fu en;dn;bs lt",
    "bs gb;bs ey;bs bu;bs dt;bs fq;bs ln;bs fg;bs dv;bs ib;jb;mk;ag v;co v;u v;ek bb;on AT"]⟩,
  ⟨65313, "it dq c a ", ["A;B;C;D;E;F;G;H;I;J;K;L;M;N;O;P;Q;R;S;T;U;V;W;X;Y;Z"]⟩,
  ⟨65339, "it ", ["n x ab;ef dn;g x ab;s cv;kn de;bg cv"]⟩,
  ⟨65345, "it dq d a ", ["A;B;C;D;E;F;G;H;I;J;K;L;M;N;O;P;Q;R;S;T;U;V;W;X;Y;Z"]⟩,
  ⟨65371, "it ", ["n er ab;k de;g er ab;av;n q ba;g q ba"]⟩,
  ⟨65377, "fv ", ["cg fu en;n dk ab;g dk ab;cg dx;cy da bl;cy a WO"]⟩,
  ⟨65383, "fv cy a d ", ["A;I;U;E;O;YA;YU;YO;TU"]⟩, ⟨65392, "fv dp zg hb ", ["bb"]⟩,
  ⟨65393, "fv cy a ", ["A;I;U;E;O;KA;KI;KU;KE;KO;SA;SI;SU;SE;SO;TA;TI;TU;TE;TO;NA;NI;NU;NE;NO;HA;HI",
    "HU;HE;HO;MA;MI;MU;ME;MO;YA;YU;YO;RA;RI;RU;RE;RO;WA;N"]⟩,
  ⟨65438, "fv ", ["cy kf hb bb;cy ob hb bb;jx FILLER"]⟩,
  ⟨65441, "fv jx a ", ["KIYEOK;SSANGKIYEOK;KIYEOK-SIOS;NIEUN;NIEUN-CIEUC;NIEUN-HIEUH;TIKEUT",
    "SSANGTIKEUT;RIEUL;RIEUL-KIYEOK;RIEUL-MIEUM;RIEUL-PIEUP;RIEUL-SIOS;RIEUL-THIEUTH;RIEUL-PHIEUPH",
    "RIEUL-HIEUH;MIEUM;PIEUP;SSANGPIEUP;PIEUP-SIOS;SIOS;SSANGSIOS;IEUNG;CIEUC;SSANGCIEUC;CHIEUCH",
    "KHIEUKH;THIEUTH;PHIEUPH;HIEUH"]⟩,
  ⟨65474, "fv jx a ", ["A;AE;YA;YAE;EO;E"]⟩, ⟨65482, "fv jx a ", ["YEO;YE;O;WA;WAE;OE"]⟩,
  ⟨65490, "fv jx a ", ["YO;U;WEO;WE;WI;YU"]⟩, ⟨65498, "fv jx a ", ["EU;YI;I"]⟩,
  ⟨65504, "it ", ["CENT v;POUND v;fh v;au;rg dc;YEN v;WON v"]⟩,
  ⟨65512, "fv ", ["FORMS ao k;j e;aj e;f e;aa e;m x;q ad"]⟩,
  ⟨65529, "", ["nr ok ANCHOR;nr ok ff;nr ok TERMINATOR;OBJECT vn ir;vn ir"]⟩,
  ⟨126976, "MAHJONG TILE ", ["dg qv;cm qv;eg qv;bt qv;vm op;me op;q op;gb OF fa;ey OF fa;bu OF fa",
    "dt OF fa;fq OF fa;ln OF fa;fg OF fa;dv OF fa;ib OF fa;gb OF hq;ey OF hq;bu OF hq;dt OF hq",
    "fq OF hq;ln OF hq;fg OF hq;dv OF hq;ib OF hq;gb OF hu;ey OF hu;bu OF hu;dt OF hu;fq OF hu",
    "ln OF hu;fg OF hu;dv OF hu;ib OF hu;PLUM;ORCHID;BAMBOO;CHRYSANTHEMUM;SPRING;SUMMER;AUTUMN",
    "WINTER;JOKER;vx"]⟩,
  ⟨127744, "", ["CYCLONE;FOGGY;df lr;NIGHT b STARS;SUNRISE ic MOUNTAINS;SUNRISE;ys AT DUSK",
    "SUNSET ic yr;RAINBOW;om AT NIGHT;oh ls;VOLCANO;MILKY WAY;pr vd EUROPE-AFRICA;pr vd AMERICAS",
    "pr vd ASIA-AUSTRALIA;vd b MERIDIANS;NEW ia r;WAXING nf ia r;ru gx ia r;WAXING GIBBOUS ia r",
    "fu ia r;WANING GIBBOUS ia r;LAST gx ia r;WANING nf ia r;nf ia;NEW ia b an;ru gx ia b an",
    "LAST gx ia b an;fu ia b an;ye b an;GLOWING em;SHOOTING em;vr;m DROPLET;q ye;q ye b d kh",
    "q ye vy kh;q ye vy kh b xt;kh b xt;kh b SNOW;kh b jz;kh b TORNADO;FOG;qv BLOWING an;HOT DOG",
    "TACO;BURRITO;CHESTNUT;SEEDLING;EVERGREEN yk;DECIDUOUS yk;PALM yk;CACTUS;HOT PEPPER;TULIP",
    "CHERRY BLOSSOM;ROSE;HIBISCUS;SUNFLOWER;BLOSSOM;EAR OF MAIZE;EAR OF xw;HERB;dt hz CLOVER",
    "MAPLE hz;FALLEN hz;hz FLUTTERING IN qv;MUSHROOM;TOMATO;AUBERGINE;GRAPES;MELON;WATERMELON",
    "TANGERINE;LEMON;BANANA;PINEAPPLE;vm APPLE;me APPLE;PEAR;PEACH;CHERRIES;STRAWBERRY;HAMBURGER",
    "SLICE OF PIZZA;MEAT ON BONE;POULTRY zb;xw CRACKER;xw lu;COOKED xw;CURRY h xw;STEAMING BOWL",
    "SPAGHETTI;BREAD;FRENCH FRIES;ROASTED SWEET POTATO;DANGO;ODEN;SUSHI;FRIED SHRIMP",
    "qn CAKE b SWIRL DESIGN;xz ICE CREAM;SHAVED ICE;ICE CREAM;DOUGHNUT;COOKIE;CHOCOLATE dc;CANDY",
    "LOLLIPOP;CUSTARD;HONEY POT;SHORTCAKE;BENTO mm;POT OF FOOD;COOKING;FORK h KNIFE",
    "TEACUP qi HANDLE;SAKE re h CUP;WINE pv;COCKTAIL pv;TROPICAL DRINK;BEER MUG;CLINKING BEER MUGS",
    "tn re;FORK h KNIFE b PLATE;re b POPPING CORK;POPCORN;sv;WRAPPED PRESENT;BIRTHDAY CAKE",
    "JACK-O-LANTERN;qj yk;FATHER qj;FIREWORKS;FIREWORK SPARKLER;to;PARTY POPPER;CONFETTI lu",
    "TANABATA yk;pm FLAGS;PINE wi;hk DOLLS;CARP STREAMER;qv CHIME;ia VIEWING CEREMONY",
    "SCHOOL SATCHEL;GRADUATION CAP;dy b pe ON tm n;BOUQUET OF FLOWERS;sg se;REMINDER sv",
    "jq le b JACKS;STUDIO xj;LEVEL SLIDER;km KNOBS;rc yo jq sk;rc wk jq sk;FILM FRAMES",
    "ADMISSION TICKETS;CAROUSEL ve;FERRIS WHEEL;ROLLER COASTER;FISHING xn h qn;xj;MOVIE ri;CINEMA",
    "HEADPHONE;ARTIST PALETTE;kd HAT;CIRCUS TENT;TICKET;CLAPPER zx;PERFORMING ARTS;VIDEO GAME",
    "DIRECT HIT;SLOT uf;BILLIARDS;GAME DIE;BOWLING;os PLAYING CARDS;jq nu;MULTIPLE jq sk;SAXOPHONE",
    "GUITAR;jq le;TRUMPET;VIOLIN;jq SCORE;RUNNING SHIRT b SASH;TENNIS RACQUET h lu;SKI h SKI BOOT",
    "BASKETBALL h HOOP;CHEQUERED lx;SNOWBOARDER;RUNNER;SURFER;SPORTS se;TROPHY;ve xs",
    "AMERICAN FOOTBALL;RUGBY FOOTBALL;SWIMMER;WEIGHT LIFTER;GOLFER;xs MOTORCYCLE;xs CAR",
    "CRICKET BAT h lu;VOLLEYBALL;FIELD HOCKEY STICK h lu;ICE HOCKEY STICK h PUCK",
    "TABLE TENNIS PADDLE h lu;SNOW CAPPED jp;CAMPING;BEACH b lr;ku mq;rz yr;ys;DERELICT rz ku",
    "CLASSICAL ku;DESERT;DESERT ISLAND;NATIONAL PARK;STADIUM;rz ku;rz b GARDEN;xk ku;hk POST xk",
    "EUROPEAN POST xk;HOSPITAL;BANK;AUTOMATED TELLER uf;HOTEL;LOVE HOTEL;CONVENIENCE STORE;SCHOOL",
    "DEPARTMENT STORE;FACTORY;IZAKAYA LANTERN;hk wc;EUROPEAN wc;q PENNANT;m PENNANT;yl q lx",
    "yl m lx;ROSETTE;m ROSETTE;LABEL;BADMINTON RACQUET h SHUTTLECOCK;BOW h e;AMPHORA"]⟩,
  ⟨127995, "rs lh FITZPATRICK ", ["TYPE-1-2;TYPE-3;TYPE-4;TYPE-5;TYPE-6"]⟩,
  ⟨128000, "", ["RAT;ns;OX;oh BUFFALO;COW;TIGER;LEOPARD;RABBIT;ts;op;CROCODILE;WHALE;SNAIL;SNAKE;ve",
    "RAM;GOAT;SHEEP;oy;ROOSTER;CHICKEN;DOG;PIG;BOAR;ELEPHANT;OCTOPUS;yb gy;BUG;ANT;HONEYBEE",
    "LADY BEETLE;qn;TROPICAL qn;BLOWFISH;TURTLE;HATCHING CHICK;tn CHICK;FRONT-FACING tn CHICK;BIRD",
    "PENGUIN;KOALA;POODLE;DROMEDARY CAMEL;BACTRIAN CAMEL;DOLPHIN;ns an;COW an;TIGER an;RABBIT an",
    "ts an;op an;SPOUTING WHALE;ve an;oy an;DOG an;PIG an;FROG an;HAMSTER an;WOLF an;BEAR an",
    "PANDA an;PIG NOSE;PAW PRINTS;CHIPMUNK;ih;EYE;EAR;NOSE;gv;td;q UP ai hg dw;q ax ai hg dw",
    "q n ai hg dw;q g ai hg dw;FISTED fw v;yl fw v;OK fw v;tb UP v;tb ax v;CLAPPING mf v;dl mf v",
    "CROWN;th HAT;EYEGLASSES;NECKTIE;T-SHIRT;JEANS;DRESS;KIMONO;BIKINI;th CLOTHES;PURSE;HANDBAG",
    "POUCH;MANS sy;ATHLETIC sy;HIGH-HEELED sy;th SANDAL;th BOOTS;FOOTPRINTS;BUST IN lm;BUSTS IN lm",
    "BOY;GIRL;ug;tg;FAMILY;ug h tg pw mf;ey MEN pw mf;ey WOMEN pw mf;sp OFFICER;tg b BUNNY EARS",
    "BRIDE b VEIL;ec b BLOND ww;ug b GUA PI MAO;ug b TURBAN;OLDER ug;OLDER tg;tn;mq WORKER",
    "PRINCESS;hk OGRE;hk GOBLIN;GHOST;tn ANGEL;EXTRATERRESTRIAL ALIEN;ALIEN MONSTER;IMP;SKULL",
    "nq DESK ec;GUARDSMAN;DANCER;LIPSTICK;NAIL POLISH;an MASSAGE;HAIRCUT;BARBER xn;SYRINGE;PILL",
    "KISS bb;LOVE a;el;GEM STONE;KISS;BOUQUET;COUPLE b dy;WEDDING;BEATING dy;rg dy;ey wy",
    "SPARKLING dy;GROWING dy;dy b e;tp dy;me dy;yn dy;xq dy;dy b sv;zi wy;dy wi;bj SHAPE b A bl hx",
    "ni ao BULB;zu r;BOMB;ta r;COLLISION r;SPLASHING vq r;DROPLET;et r;PILE OF POO;FLEXED BICEPS",
    "DIZZY r;pc to;us to;q os;iu POINTS r;MONEY BAG;ro EXCHANGE;w rr v;CREDIT wb;nc b YEN v",
    "nc b rr v;nc b EURO v;nc b POUND v;MONEY b WINGS;rj b aj TREND h YEN v;SEAT;PERSONAL rl",
    "BRIEFCASE;MINIDISC;rv wl;OPTICAL DISC;DVD;wo ot;dl wo ot;nw b mr;nw oq UP;rh;TEAR-OFF rh",
    "wb dw;rj b aj TREND;rj b aa TREND;dc rj;CLIPBOARD;uk;ROUND uk;PAPERCLIP;lp RULER;jk RULER",
    "zz TABS;LEDGER;NOTEBOOK;NOTEBOOK b DECORATIVE COVER;df tq;dl tq;me tq;tp tq;mv tq;BOOKS",
    "NAME BADGE;SCROLL;MEMO;eb nz;PAGER;FAX uf;zj ANTENNA;PUBLIC ADDRESS LOUDSPEAKER",
    "CHEERING MEGAPHONE;OUTBOX TRAY;INBOX TRAY;PACKAGE;E-MAIL r;INCOMING gm;gm b aa e l",
    "df qc b LOWERED lx;df qc b ip lx;dl qc b ip lx;dl qc b LOWERED lx;POSTBOX;sr fy;zc;ox vi",
    "ox vi b f e AT n;VIBRATION MODE;ox vi OFF;NO ox PHONES;ANTENNA b BARS;ri;ri b FLASH;VIDEO ri",
    "TELEVISION;RADIO;VIDEOCASSETTE;FILM PROJECTOR;PORTABLE STEREO;PRAYER BEADS;TWISTED f ez",
    "dd f h j dl ad ez;dd f h j dl ad ez b am gb ep;dd aa h aj dl ad ez;bc aa h aj dl ad ez",
    "kn vz r;ub vz r;jt b mp y;jt;jt b gb hb ls;jt b bu hb WAVES;BATTERY;ni PLUG;bf xh pv;aw xh pv",
    "LOCK b INK PEN;df LOCK b xe;xe;LOCK;dl LOCK;rd;rd b mp y;zz;LINK r;RADIO mn;vx b j e l",
    "tj b j e l;ON b di bb b n g e l;SOON b f e l;kd b aj e l;NO gb UNDER kx r;KEYCAP ra",
    "sb r jc dq c ue;sb r jc dq d ue;sb r jc NUMBERS;sb r jc SYMBOLS;sb r jc dq ue;wq;ni TORCH",
    "WRENCH;rw;NUT h BOLT;HOCHO;PISTOL;MICROSCOPE;TELESCOPE;CRYSTAL lu;ln eq em b da bl",
    "hk r jc BEGINNER;TRIDENT EMBLEM;m x mn;q x mn;gn vm ad;gn tp ad;gn mv bj;gn tp bj;d mv bj",
    "d tp bj;cn vm ac;cr vm ac;cn d vm ac;cr d vm ac;bh g gs q ad;ck g gs q ad;am do xo",
    "do xo b HALF-CIRCLE t;do xo;ko n ji b bu if;ko g ji b bu if;r jc MARKS CHAPTER;q dq do",
    "w dq do;CELTIC do;OM r;DOVE OF PEACE;KAABA;MOSQUE;SYNAGOGUE;MENORAH b ib BRANCHES",
    "BOWL OF HYGIEIA"]⟩,
  ⟨128336, "uy an ", ["gb he;ey he;bu he;dt he;fq he;ln he;fg he;dv he;ib he;ra he;kz he;ke he",
    "ONE-THIRTY;TWO-THIRTY;THREE-THIRTY;FOUR-THIRTY;FIVE-THIRTY;SIX-THIRTY;SEVEN-THIRTY",
    "EIGHT-THIRTY;NINE-THIRTY;TEN-THIRTY;ELEVEN-THIRTY;TWELVE-THIRTY"]⟩,
  ⟨128360, "", ["g jt;g jt b gb hb ls;g jt b bu hb WAVES;BULLHORN;BULLHORN b hb WAVES;RINGING rd;tq",
    "CANDLE;MANTELPIECE uy;m SKULL h we;NO PIRACY;HOLE;ug IN BUSINESS pd LEVITATING;SLEUTH OR SPY",
    "DARK yf;SPIDER;SPIDER WEB;JOYSTICK;ug DANCING;n fw eb nz;eb nz b nw;g fw eb nz;q zm eb",
    "m zm eb;eb ON kd OF MODEM;CLAMSHELL ox vi;vx OF gm;STAMPED gm;gm b jz;ws gm;PEN ic STAMPED gm",
    "LINKED PAPERCLIPS;m uk;bh n sm;bh n BALLPOINT PEN;bh n FOUNTAIN PEN;bh n PAINTBRUSH",
    "bh n CRAYON;n WRITING fw;bk OK fw v;ip fw b mt SPLAYED;ap ip fw b mt SPLAYED;ap tb UP v",
    "ap tb ax v;ap VICTORY fw;ap fw b da wp EXTENDED;ip fw b PART pk da h el mt;q ax ai n fw dw",
    "hm q n ai dw;hm q g ai dw;hm m n ai dw;hm m g ai dw;m n ai hg dw;m g ai hg dw;hm q UP ai dw",
    "hm q ax ai dw;hm m UP ai dw;hm m ax ai dw;m UP ai hg dw;m ax ai hg dw;m dy;DESKTOP rl;le h ns",
    "bu NETWORKED COMPUTERS;PRINTER;POCKET CALCULATOR;m wx gy rv wl;q wx gy rv wl;xz gy rv wl",
    "TAPE CARTRIDGE;WIRED le;gb mn ns;ey mn ns;bu mn ns;TRACKBALL;OLD PERSONAL rl;wx wl;sw",
    "PRINTER ICON;FAX ICON;OPTICAL DISC ICON;kw b yh;kw b yh h ui;kw b ui;FRAME b ui;FRAME b TILES",
    "FRAME b AN X;m ot;ot;dl ot;wb dw DIVIDERS;wb wo mm;wo CABINET;ig nu;ig nu nw;ig nu PAD;nu",
    "nu nw;nu PAD;ig kw;ig nw;ig PAGES;kw;nw;PAGES;WASTEBASKET;yb nu PAD;yb rh PAD;DESKTOP WINDOW",
    "MINIMIZE;MAXIMIZE;OVERLAP;dd g h n ji ez;mp X;INCREASE FONT SIZE r;DECREASE FONT SIZE r",
    "COMPRESSION;OLD xe;ROLLED-UP zc;nw b am yh;STOCK rj;wh KNIFE;LIPS;SPEAKING HEAD IN lm;bu ul l",
    "bu ul t;bu ul n;bu ul g;n pc jg;g pc jg;ey pc tr;bu pc tr;n us jg;g us jg;n zu jg;g zu jg",
    "MOOD jg;jz MOOD jg;jz MOOD;gk mm b gk;gk ed X;gk mm b ed X;gk zy ed X;gk mm b zy ed X",
    "ao ma bb;gk mm b zy ma;WORLD MAP;MOUNT FUJI;TOKYO TOWER;STATUE OF LIBERTY;lm OF JAPAN;MOYAI",
    "lb an;lb an b cu ih;an b TEARS OF JOY"]⟩,
  ⟨128515, "cu an b ", ["dl gv;dl gv h cu ih;dl gv h COLD vq;dl gv h tc ih;HALO;HORNS"]⟩,
  ⟨128521, "", ["WINKING an;cu an b cu ih;an SAVOURING DELICIOUS FOOD;RELIEVED an;cu an b tz ih",
    "cu an b yf;SMIRKING an;NEUTRAL an;EXPRESSIONLESS an;UNAMUSED an;an b COLD vq;PENSIVE an",
    "CONFUSED an;CONFOUNDED an;qa an;an THROWING A KISS;qa an b cu ih;qa an b df ih;an b qs td",
    "an b qs td h WINKING EYE;an b qs td h tc ih;tw an;WORRIED an;ANGRY an;uj an;wg an",
    "PERSEVERING an;an b LOOK OF TRIUMPH;tw wa RELIEVED an;nm an b dl gv;ANGUISHED an;FEARFUL an",
    "WEARY an;SLEEPY an;TIRED an;GRIMACING an;LOUDLY wg an;an b dl gv;HUSHED an",
    "an b dl gv h COLD vq;an SCREAMING IN FEAR;ASTONISHED an;FLUSHED an;ta an;DIZZY an;an qi gv",
    "an b MEDICAL MASK;lb ts an b cu ih;ts an b TEARS OF JOY;cu ts an b dl gv;cu ts an b tz ih",
    "ts an b WRY SMILE;qa ts an b df ih;uj ts an;wg ts an;WEARY ts an;SLIGHTLY nm an",
    "SLIGHTLY cu an;UPSIDE-DOWN an;an b ROLLING ih;an b NO GOOD GESTURE;an b OK GESTURE",
    "ec BOWING DEEPLY;SEE-NO-EVIL oy;HEAR-NO-EVIL oy;SPEAK-NO-EVIL oy;HAPPY ec RAISING gb fw",
    "ec RAISING BOTH mf IN CELEBRATION;ec nm;ec b uj an;ec b FOLDED mf;bt eg ai hz;cm eg ai hz",
    "bt dg ai hz;cm dg ai hz;bk bt eg ai hz;bk cm eg ai hz;bk bt dg ai hz;bk cm dg ai hz",
    "bt eg ai qu hz;cm eg ai qu hz;bt dg ai qu hz;cm dg ai qu hz;w bt eg ai qu hz;w cm eg ai qu hz",
    "w bt dg ai qu hz;w cm dg ai qu hz;bt eg ai yq;cm eg ai yq;bt dg ai yq;cm dg ai yq",
    "w bt eg ai yq;w cm eg ai yq;w bt dg ai yq;w cm dg ai yq;HOLLOW vk x at;HOLLOW vk x at IN m x",
    "SOLID vk x at;SOLID vk x at IN m x;j pb;aj pb;f pb;aa pb;ed cz ET at;w ed cz ET at",
    "cz dl ET at;w cz dl ET at;w ju at;SWASH ju at;ds w i bk dx be bb at;ds w i dx be bb at",
    "ds w kn i dx be bb at;w kj at;ds kj at;w ds kj at;uu w dn;uu w ef dn;CHECKER zx;ef CHECKER zx",
    "pb;HELICOPTER;STEAM xg;qf CAR;wz TRAIN;wz TRAIN b gc NOSE;TRAIN;METRO;ao RAIL;STATION;TRAM",
    "TRAM CAR;BUS;li BUS;TROLLEYBUS;BUS en;MINIBUS;AMBULANCE;wq ENGINE;sp CAR;li sp CAR;TAXI",
    "li TAXI;vw;li vw;RECREATIONAL VEHICLE;DELIVERY TRUCK;ARTICULATED LORRY;TRACTOR;MONORAIL;jp qf",
    "SUSPENSION qf;jp CABLEWAY;AERIAL TRAMWAY;SHIP;ROWBOAT;SPEEDBOAT;o my ao;k my ao;mq v",
    "sp CARS zi ao;jk lx ON POST;DOOR;NO ENTRY v;SMOKING r;NO SMOKING r;PUT LITTER IN ITS qd r",
    "DO fh LITTER r;POTABLE oh r;NON-POTABLE oh r;BICYCLE;NO BICYCLES;yp;jp yp;PEDESTRIAN",
    "NO PEDESTRIANS;CHILDREN fi;MENS r;WOMENS r;RESTROOM;tn r;TOILET;oh CLOSET;SHOWER;BATH;BATHTUB",
    "PASSPORT km;CUSTOMS;BAGGAGE CLAIM;n LUGGAGE;ac b un tv;PROHIBITED v;am nq ya;BOYS r;GIRLS r",
    "COUCH h LAMP;ta ACCOMMODATION;SHOPPING BAGS;BELLHOP rd;BED;qd OF WORSHIP;OCTAGONAL v",
    "SHOPPING TROLLEY;STUPA;PAGODA;HINDU TEMPLE;HUT;ELEVATOR"]⟩,
  ⟨128733, "", ["PLAYGROUND SLIDE;WHEEL;el BUOY;rw h WRENCH;SHIELD;OIL DRUM;MOTORWAY;qf TRACK",
    "MOTOR BOAT;cn sg hf;cn hf;cn d hf;d hf;NORTHEAST-POINTING hf;hf DEPARTURE;hf ARRIVING"]⟩,
  ⟨128752, "", ["zj;li wq ENGINE;DIESEL xg;PASSENGER SHIP;SCOOTER;MOTOR SCOOTER;CANOE;SLED",
    "ws SAUCER;SKATEBOARD;AUTO RICKSHAW;PICKUP TRUCK;ROLLER SKATE"]⟩,
  ⟨128992, "gn ", ["mv ad;yn ad;me ad;xq ad;BROWN ad;vm x;tp x;mv x;yn x;me x;xq x;BROWN x"]⟩,
  ⟨129280, "", ["am do wt b dt if;am do wt b ey if;am do wt;n ci ad b dt if;n ci ad b bu if",
    "n ci ad b ey if;n ci ad b bl;n ci ad;ng oq az;ng oq ko az;ng oq az b bl;ng oq ko az b bl",
    "PINCHED mt;q dy;BROWN dy;PINCHING fw;ZIPPER-MOUTH an;MONEY-MOUTH an;an b vr;NERD an",
    "THINKING an;an b HEAD-BANDAGE;ROBOT an;HUGGING an;v OF tm HORNS;CALL ME fw;ip vx OF fw",
    "vf FIST;um FIST;HANDSHAKE;fw b dw h da mt pm;I LOVE YOU fw v;an b COWBOY HAT;CLOWN an",
    "NAUSEATED an;ROLLING ON tm FLOOR LAUGHING;DROOLING an;LYING an;an PALM;SNEEZING an",
    "an b gb EYEBROW ip;lb an b em ih;lb an b gb gn h gb d EYE;an b wp rn df LIPS",
    "SERIOUS an b SYMBOLS rn gv;cu an b cu ih h fw rn gv;an b dl gv VOMITING",
    "SHOCKED an b EXPLODING HEAD;ss tg;BREAST-FEEDING;PALMS UP TOGETHER;SELFIE;PRINCE;ug IN TUXEDO",
    "MOTHER qj;SHRUG;ec DOING CARTWHEEL;JUGGLING;FENCER;MODERN PENTATHLON;WRESTLERS;oh POLO",
    "HANDBALL;DIVING MASK;WILTED os;DRUM b DRUMSTICKS;CLINKING GLASSES;TUMBLER pv;SPOON;GOAL NET",
    "RIFLE;ru qd se;SECOND qd se;THIRD qd se;BOXING GLOVE;MARTIAL ARTS UNIFORM;CURLING STONE",
    "LACROSSE STICK h lu;SOFTBALL;ws DISC;CROISSANT;AVOCADO;CUCUMBER;BACON;POTATO;CARROT",
    "BAGUETTE BREAD;me SALAD;SHALLOW PAN OF FOOD;STUFFED yx;EGG;pv OF MILK;PEANUTS;KIWIFRUIT",
    "PANCAKES;DUMPLING;FORTUNE COOKIE;TAKEOUT mm;CHOPSTICKS;BOWL b SPOON;CUP b STRAW;COCONUT",
    "BROCCOLI;PIE;PRETZEL;CUT OF MEAT;SANDWICH;CANNED FOOD;LEAFY me;MANGO;ia CAKE;BAGEL",
    "cu an b cu ih h bu wy;YAWNING an;cu an b TEAR;an b PARTY fy h PARTY HAT",
    "an b UNEVEN ih h WAVY gv;OVERHEATED an;FREEZING an;NINJA;DISGUISED an;an pw vx TEARS",
    "an b PLEADING ih;SARI;LAB COAT;GOGGLES;HIKING BOOT;FLAT sy;CRAB;LION an;SCORPION;TURKEY",
    "UNICORN an;EAGLE;DUCK;BAT;SHARK;OWL;FOX an;BUTTERFLY;DEER;GORILLA;LIZARD;RHINOCEROS;SHRIMP",
    "SQUID;GIRAFFE an;ZEBRA an;HEDGEHOG;SAUROPOD;T-REX;CRICKET;KANGAROO;LLAMA;PEACOCK;HIPPOPOTAMUS",
    "PARROT;RACCOON;LOBSTER;MOSQUITO;MICROBE;BADGER;SWAN;MAMMOTH;DODO;SLOTH;OTTER;ORANGUTAN;SKUNK",
    "FLAMINGO;OYSTER;BEAVER;BISON;SEAL;GUIDE DOG;PROBING CANE;rs mb vm ww;rs mb er ww;rs mb BALD",
    "rs mb q ww;BONE;zb;FOOT;TOOTH;SUPERHERO;SUPERVILLAIN;xx VEST;EAR b HEARING AID;MOTORIZED ph",
    "MANUAL ph;xi ARM;xi zb;CHEESE WEDGE;CUPCAKE;SALT SHAKER;zv mm;GARLIC;ONION;FALAFEL;WAFFLE",
    "BUTTER;MATE DRINK;ICE CUBE;jg TEA;TROLL;STANDING ec;KNEELING ec;DEAF ec;an b MONOCLE;ADULT",
    "CHILD;OLDER ADULT;BEARDED ec;ec b HEADSCARF;ec IN STEAMY ROOM;ec CLIMBING;ec IN LOTUS sq;MAGE",
    "FAIRY;VAMPIRE;MERPERSON;ELF;GENIE;ZOMBIE;BRAIN;mv dy;BILLED CAP;SCARF;GLOVES;COAT;SOCKS",
    "vm GIFT gm;FIRECRACKER;JIGSAW PUZZLE ny;TEST TUBE;PETRI DISH;DNA i HELIX;COMPASS;ABACUS",
    "wq EXTINGUISHER;TOOLBOX;BRICK;MAGNET;LUGGAGE;LOTION re;SPOOL OF THREAD;lu OF YARN;xx PIN",
    "TEDDY BEAR;BROOM;BASKET;ROLL OF vh;dc OF SOAP;SPONGE;RECEIPT;NAZAR AMULET"]⟩,
  ⟨129648, "", ["BALLET SHOES;ONE-PIECE SWIMSUIT;BRIEFS;sz;THONG SANDAL"]⟩,
  ⟨129656, "", ["DROP OF BLOOD;ADHESIVE BANDAGE;STETHOSCOPE;X-RAY;CRUTCH"]⟩,
  ⟨129664, "", ["YO-YO;KITE;PARACHUTE;BOOMERANG;MAGIC WAND;PINATA;NESTING DOLLS"]⟩,
  ⟨129680, "", ["RINGED PLANET;CHAIR;RAZOR;AXE;DIYA LAMP;BANJO;sg HELMET;ACCORDION;dz DRUM;COIN",
    "CARPENTRY SAW;SCREWDRIVER;LADDER;az;MIRROR;WINDOW;PLUNGER;SEWING NEEDLE;KNOT;BUCKET;ns TRAP",
    "TOOTHBRUSH;yz;PLACARD;ROCK;MIRROR lu;sa wb;kn BATTERY;HAMSA"]⟩,
  ⟨129712, "", ["FLY;WORM;BEETLE;COCKROACH;POTTED PLANT;WOOD;FEATHER;LOTUS;CORAL;ig NEST",
    "NEST b EGGS"]⟩,
  ⟨129728, "", ["ANATOMICAL dy;LUNGS;PEOPLE HUGGING;ss ug;ss ec;ec b CROWN"]⟩,
  ⟨129744, "", ["BLUEBERRIES;rd PEPPER;OLIVE;yx;TAMALE;FONDUE;TEAPOT;POURING LIQUID;BEANS;JAR"]⟩,
  ⟨129760, "", ["MELTING an;SALUTING an;an b dl ih h fw ic gv;an b PEEKING EYE;an b ce gv;hv de an",
    "BITING LIP;tr"]⟩,
  ⟨129776, "", ["fw b dw wp h THUMB pm;f fw;j fw;PALM ax fw;PALM UP fw;dw ai AT tm VIEWER;dy mf"]⟩]

/-- The names of characters, in runs. -/
def nameRuns : List NameRun :=
  namesFrom0020 ++ namesFrom2776

/-- Second names, and the names of control characters, which have no others. -/
def secondNames : List (String × Nat) := [
  ("NULL", 0), ("NUL", 0), ("START OF HEADING", 1), ("SOH", 1), ("START OF TEXT", 2), ("STX", 2),
  ("END OF TEXT", 3), ("ETX", 3), ("END OF TRANSMISSION", 4), ("EOT", 4), ("ENQUIRY", 5),
  ("ENQ", 5), ("ACKNOWLEDGE", 6), ("ACK", 6), ("ALERT", 7), ("BEL", 7), ("BACKSPACE", 8),
  ("BS", 8), ("CHARACTER TABULATION", 9), ("HORIZONTAL TABULATION", 9), ("HT", 9), ("TAB", 9),
  ("LINE FEED", 10), ("NEW LINE", 10), ("END OF LINE", 10), ("LF", 10), ("NL", 10), ("EOL", 10),
  ("LINE TABULATION", 11), ("VERTICAL TABULATION", 11), ("VT", 11), ("FORM FEED", 12),
  ("FF", 12), ("CARRIAGE RETURN", 13), ("CR", 13), ("SHIFT OUT", 14), ("LOCKING-SHIFT ONE", 14),
  ("SO", 14), ("SHIFT IN", 15), ("LOCKING-SHIFT ZERO", 15), ("SI", 15), ("DATA LINK ESCAPE", 16),
  ("DLE", 16), ("DEVICE CONTROL ONE", 17), ("DC1", 17), ("DEVICE CONTROL TWO", 18), ("DC2", 18),
  ("DEVICE CONTROL THREE", 19), ("DC3", 19), ("DEVICE CONTROL FOUR", 20), ("DC4", 20),
  ("NEGATIVE ACKNOWLEDGE", 21), ("NAK", 21), ("SYNCHRONOUS IDLE", 22), ("SYN", 22),
  ("END OF TRANSMISSION BLOCK", 23), ("ETB", 23), ("CANCEL", 24), ("CAN", 24),
  ("END OF MEDIUM", 25), ("EOM", 25), ("SUBSTITUTE", 26), ("SUB", 26), ("ESCAPE", 27),
  ("ESC", 27), ("INFORMATION SEPARATOR FOUR", 28), ("FILE SEPARATOR", 28), ("FS", 28),
  ("INFORMATION SEPARATOR THREE", 29), ("GROUP SEPARATOR", 29), ("GS", 29),
  ("INFORMATION SEPARATOR TWO", 30), ("RECORD SEPARATOR", 30), ("RS", 30),
  ("INFORMATION SEPARATOR ONE", 31), ("UNIT SEPARATOR", 31), ("US", 31), ("SP", 32),
  ("DELETE", 127), ("DEL", 127), ("PADDING CHARACTER", 128), ("PAD", 128),
  ("HIGH OCTET PRESET", 129), ("HOP", 129), ("NEXT LINE", 133), ("NEL", 133), ("NBSP", 160),
  ("SHY", 173), ("CGJ", 847), ("ZWSP", 8203), ("ZWNJ", 8204), ("ZWJ", 8205), ("LRM", 8206),
  ("RLM", 8207), ("LRE", 8234), ("RLE", 8235), ("PDF", 8236), ("LRO", 8237), ("RLO", 8238),
  ("NNBSP", 8239), ("MMSP", 8287), ("WJ", 8288), ("LRI", 8294), ("RLI", 8295), ("FSI", 8296),
  ("PDI", 8297), ("BYTE ORDER MARK", 65279), ("BOM", 65279), ("ZWNBSP", 65279), ("VS15", 65038),
  ("VS16", 65039), ("WEIERSTRASS ELLIPTIC FUNCTION", 8472), ("LATIN CAPITAL LETTER GHA", 418),
  ("LATIN SMALL LETTER GHA", 419)]

end Docsmith.Text
