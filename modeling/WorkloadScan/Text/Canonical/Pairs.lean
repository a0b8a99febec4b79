/-! Characters that are one with a pair of characters. -/
namespace WorkloadScan.Text.Canonical

/-- The pairs, by their second character: it, the first characters, and for each of them the
character that is one with the pair. -/
def joiningPairs : List (Nat × String × String) :=
  [(0x300,
    "AEIOUaeiouÜüNnЕИеиĒēŌōWwÂâĂăÊêÔôƠơƯưYyἀἁἈἉἐἑἘἙἠἡἨἩἰἱἸἹὀὁὈὉὐὑὙὠὡὨὩαεηιουωΑΕΗ" ++
      "\u1fbfϊΙ\u1ffeϋΥ\u00a8ΟΩ",
    "ÀÈÌÒÙàèìòùǛǜǸǹЀЍѐѝḔḕṐṑẀẁẦầẰằỀềỒồỜờỪừỲỳἂἃἊἋἒἓἚἛἢἣἪἫἲἳἺἻὂὃὊὋὒὓὛὢὣὪὫὰὲὴὶὸὺὼᾺῈῊ" ++
      "\u1fcdῒῚ\u1fddῢῪ\u1fedῸῺ"),
   (0x301,
    "AEIOUYaeiouyCcLlNnRrSsZzÜüGgÅåÆæØø\u00a8ΑΕΗΙΟΥΩϊαεηιϋουωϒГКгкÇçĒēÏïKkMmÕõŌōPpŨũW" ++
      "wÂâĂăÊêÔôƠơƯưἀἁἈἉἐἑἘἙἠἡἨἩἰἱἸἹὀὁὈὉὐὑὙὠὡὨὩ\u1fbf\u1ffe",
    "ÁÉÍÓÚÝáéíóúýĆćĹĺŃńŔŕŚśŹźǗǘǴǵǺǻǼǽǾǿ\u0385ΆΈΉΊΌΎΏΐάέήίΰόύώϓЃЌѓќḈḉḖḗḮḯḰḱḾḿṌṍṒṓṔṕṸṹẂ" ++
      "ẃẤấẮắẾếỐốỚớỨứἄἅἌἍἔἕἜἝἤἥἬἭἴἵἼἽὄὅὌὍὔὕὝὤὥὬὭ\u1fce\u1fde"),
   (0x302, "AEIOUaeiouCcGgHhJjSsWwYyZzẠạẸẹỌọ", "ÂÊÎÔÛâêîôûĈĉĜĝĤĥĴĵŜŝŴŵŶŷẐẑẬậỆệỘộ"),
   (0x303, "ANOanoIiUuVvÂâĂăEeÊêÔôƠơƯưYy", "ÃÑÕãñõĨĩŨũṼṽẪẫẴẵẼẽỄễỖỗỠỡỮữỸỹ"),
   (0x304,
    "AaEeIiOoUuÜüÄäȦȧÆæǪǫÖöÕõȮȯYyИиУуGgḶḷṚṛαΑιΙυΥ",
    "ĀāĒēĪīŌōŪūǕǖǞǟǠǡǢǣǬǭȪȫȬȭȰȱȲȳӢӣӮӯḠḡḸḹṜṝᾱᾹῑῙῡῩ"),
   (0x306, "AaEeGgIiOoUuУИиуЖжАаЕеȨȩẠạαΑιΙυΥ", "ĂăĔĕĞğĬĭŎŏŬŭЎЙйўӁӂӐӑӖӗḜḝẶặᾰᾸῐῘῠῨ"),
   (0x307,
    "CcEeGgIZzAaOoBbDdFfHhMmNnPpRrSsŚśŠšṢṣTtWwXxYyſ𐗒𐗚",
    "ĊċĖėĠġİŻżȦȧȮȯḂḃḊḋḞḟḢḣṀṁṄṅṖṗṘṙṠṡṤṥṦṧṨṩṪṫẆẇẊẋẎẏẛ𐗉𐗤"),
   (0x308,
    "AEIOUaeiouyYΙΥιυϒЕІеіАаӘәЖжЗзИиОоӨөЭэУуЧчЫыHhÕõŪūWwXxt",
    "ÄËÏÖÜäëïöüÿŸΪΫϊϋϔЁЇёїӒӓӚӛӜӝӞӟӤӥӦӧӪӫӬӭӰӱӴӵӸӹḦḧṎṏṺṻẄẅẌẍẗ"),
   (0x309, "AaÂâĂăEeÊêIiOoÔôƠơUuƯưYy", "ẢảẨẩẲẳẺẻỂểỈỉỎỏỔổỞởỦủỬửỶỷ"), (0x30a, "AaUuwy", "ÅåŮůẘẙ"),
   (0x30b, "OoUuУу", "ŐőŰűӲӳ"),
   (0x30c, "CcDdEeLlNnRrSsTtZzAaIiOoUuÜüGgKkƷʒjHh", "ČčĎďĚěĽľŇňŘřŠšŤťŽžǍǎǏǐǑǒǓǔǙǚǦǧǨǩǮǯǰȞȟ"),
   (0x30f, "AaEeIiOoRrUuѴѵ", "ȀȁȄȅȈȉȌȍȐȑȔȕѶѷ"), (0x311, "AaEeIiOoRrUu", "ȂȃȆȇȊȋȎȏȒȓȖȗ"),
   (0x313, "αΑεΕηΗιΙοΟυωΩρ", "ἀἈἐἘἠἨἰἸὀὈὐὠὨῤ"), (0x314, "αΑεΕηΗιΙοΟυΥωΩρΡ", "ἁἉἑἙἡἩἱἹὁὉὑὙὡὩῥῬ"),
   (0x31b, "OoUu", "ƠơƯư"),
   (0x323,
    "BbDdHhKkLlMmNnRrSsTtVvWwZzAaEeIiOoƠơUuƯưYy",
    "ḄḅḌḍḤḥḲḳḶḷṂṃṆṇṚṛṢṣṬṭṾṿẈẉẒẓẠạẸẹỊịỌọỢợỤụỰựỴỵ"),
   (0x324, "Uu", "Ṳṳ"), (0x325, "Aa", "Ḁḁ"), (0x326, "SsTt", "ȘșȚț"),
   (0x327, "CcGgKkLlNnRrSsTtEeDdHh", "ÇçĢģĶķĻļŅņŖŗŞşŢţȨȩḐḑḨḩ"),
   (0x328, "AaEeIiUuOo", "ĄąĘęĮįŲųǪǫ"), (0x32d, "DdEeLlNnTtUu", "ḒḓḘḙḼḽṊṋṰṱṶṷ"),
   (0x32e, "Hh", "Ḫḫ"), (0x330, "EeIiUu", "ḚḛḬḭṴṵ"),
   (0x331, "BbDdKkLlNnRrTtZzh", "ḆḇḎḏḴḵḺḻṈṉṞṟṮṯẔẕẖ"),
   (0x338,
    "←→↔⇐⇔⇒∃∈∋∣∥∼≃≅≈=≡≍<>≤≥≲≳≶≷≺≻⊂⊃⊆⊇⊢⊨⊩⊫≼≽⊑⊒⊲⊳⊴⊵",
    "↚↛↮⇍⇎⇏∄∉∌∤∦≁≄≇≉≠≢≭≮≯≰≱≴≵≸≹⊀⊁⊄⊅⊈⊉⊬⊭⊮⊯⋠⋡⋢⋣⋪⋫⋬⋭"),
   (0x342,
    "ἀἁἈἉἠἡἨἩἰἱἸἹὐὑὙὠὡὨὩα\u00a8η\u1fbfιϊ\u1ffeυϋω",
    "ἆἇἎἏἦἧἮἯἶἷἾἿὖὗὟὦὧὮὯᾶ\u1fc1ῆ\u1fcfῖῗ\u1fdfῦῧῶ"),
   (0x345,
    "ἀἁἂἃἄἅἆἇἈἉἊἋἌἍἎἏἠἡἢἣἤἥἦἧἨἩἪἫἬἭἮἯὠὡὢὣὤὥὦὧὨὩὪὫὬὭὮὯὰαάᾶΑὴηήῆΗὼωώῶΩ",
    "ᾀᾁᾂᾃᾄᾅᾆᾇᾈᾉᾊᾋᾌᾍᾎᾏᾐᾑᾒᾓᾔᾕᾖᾗᾘᾙᾚᾛᾜᾝᾞᾟᾠᾡᾢᾣᾤᾥᾦᾧᾨᾩᾪᾫᾬᾭᾮᾯᾲᾳᾴᾷᾼῂῃῄῇῌῲῳῴῷῼ"),
   (0x653, "\u0627", "\u0622"),
   (0x654, "\u0627\u0648\u064a\u06d5\u06c1\u06d2", "\u0623\u0624\u0626\u06c0\u06c2\u06d3"),
   (0x655, "\u0627", "\u0625"), (0x93c, "नरळ", "ऩऱऴ"), (0x9be, "\u09c7", "\u09cb"),
   (0x9d7, "\u09c7", "\u09cc"), (0xb3e, "\u0b47", "\u0b4b"), (0xb56, "\u0b47", "\u0b48"),
   (0xb57, "\u0b47", "\u0b4c"), (0xbbe, "\u0bc6\u0bc7", "\u0bca\u0bcb"),
   (0xbd7, "ஒ\u0bc6", "ஔ\u0bcc"), (0xc56, "\u0c46", "\u0c48"), (0xcc2, "\u0cc6", "\u0cca"),
   (0xcd5, "\u0cbf\u0cc6\u0cca", "\u0cc0\u0cc7\u0ccb"), (0xcd6, "\u0cc6", "\u0cc8"),
   (0xd3e, "\u0d46\u0d47", "\u0d4a\u0d4b"), (0xd57, "\u0d46", "\u0d4c"),
   (0xdca, "\u0dd9\u0ddc", "\u0dda\u0ddd"), (0xdcf, "\u0dd9", "\u0ddc"),
   (0xddf, "\u0dd9", "\u0dde"), (0x102e, "ဥ", "ဦ"),
   (0x1b35, "ᬅᬇᬉᬋᬍᬑ\u1b3a\u1b3c\u1b3e\u1b3f\u1b42", "ᬆᬈᬊᬌᬎᬒ\u1b3b\u1b3d\u1b40\u1b41\u1b43"),
   (0x3099,
    "かきくけこさしすせそたちつてとはひふへほう\u309dカキクケコサシスセソタチツテトハヒフヘホウワヰヱヲ\u30fd",
    "がぎぐげござじずぜぞだぢづでどばびぶべぼゔ\u309eガギグゲゴザジズゼゾダヂヅデドバビブベボヴヷヸヹヺ\u30fe"),
   (0x309a, "はひふへほハヒフヘホ", "ぱぴぷぺぽパピプペポ"), (0x110ba, "𑂙𑂛𑂥", "𑂚𑂜𑂫"), (0x11127, "𑄱𑄲", "𑄮𑄯"),
   (0x1133e, "𑍇", "𑍋"), (0x11357, "𑍇", "𑍌"), (0x113b8, "𑏂", "𑏇"), (0x113bb, "𑎄", "𑎅"),
   (0x113c2, "𑎎", "𑎎𑏅"), (0x113c9, "𑎂𑎐𑏂", "𑎃𑎑𑏈"), (0x114b0, "𑒹", "𑒼"), (0x114ba, "𑒹", "𑒻"),
   (0x114bd, "𑒹", "𑒾"), (0x115af, "𑖸𑖹", "𑖺𑖻"), (0x11930, "𑤵", "𑤸"), (0x1611e, "𖄞", "𖄡"),
   (0x1611f, "𖄢𖄡𖄢", "𖄣𖄤𖄦𖄧"), (0x16120, "𖄡𖄞", "𖄥𖄨"), (0x16129, "𖄞", "𖄢"), (0x16d67, "𖵧𖵣𖵩", "𖵨𖵩𖵪")]

/-- Pairs that are written as two characters although there is a character for them. -/
def splittingPairs : List (Nat × String × String) :=
  [(0x301, "\u0308", "\u0344"), (0x338, "⫝", "⫝̸"), (0x5b4, "\u05d9", "\ufb1d"),
   (0x5b7, "\u05f2\u05d0", "\ufb1f\ufb2e"), (0x5b8, "\u05d0", "\ufb2f"),
   (0x5b9, "\u05d5", "\ufb4b"),
   (0x5bc,
    "\u05d0\u05d1\u05d2\u05d3\u05d4\u05d5\u05d6\u05d8\u05d9\u05da\u05db\u05dc\u05de" ++
      "\u05e0\u05e1\u05e3\u05e4\u05e6\u05e7\u05e8\u05e9\u05ea",
    "\ufb30\ufb31\ufb32\ufb33\ufb34\ufb35\ufb36\ufb38\ufb39\ufb3a\ufb3b\ufb3c\ufb3e" ++
      "\ufb40\ufb41\ufb43\ufb44\ufb46\ufb47\ufb48\ufb49\ufb4a"),
   (0x5bf, "\u05d1\u05db\u05e4", "\ufb4c\ufb4d\ufb4e"), (0x5c1, "\u05e9\ufb49", "\ufb2a\ufb2c"),
   (0x5c2, "\u05e9\ufb49", "\ufb2b\ufb2d"), (0x93c, "कखगजडढफय", "क़ख़ग़ज़ड़ढ़फ़य़"),
   (0x9bc, "ডঢয", "ড়ঢ়য়"), (0xa3c, "ਲਸਖਗਜਫ", "ਲ਼ਸ਼ਖ਼ਗ਼ਜ਼ਫ਼"), (0xb3c, "ଡଢ", "ଡ଼ଢ଼"),
   (0xf72, "\u0f71", "\u0f73"), (0xf74, "\u0f71", "\u0f75"),
   (0xf80, "\u0fb2\u0fb3\u0f71", "\u0f76\u0f78\u0f81"), (0xfb5, "ཀ\u0f90", "ཀྵ\u0fb9"),
   (0xfb7, "གཌདབཛ\u0f92\u0f9c\u0fa1\u0fa6\u0fab", "གྷཌྷདྷབྷཛྷ\u0f93\u0f9d\u0fa2\u0fa7\u0fac"),
   (0x1d165, "𝅗𝅘𝆹𝆺", "𝅗𝅥𝅘𝅥𝆹𝅥𝆺𝅥"), (0x1d16e, "𝅘𝅥𝆹𝅥𝆺𝅥", "𝅘𝅥𝅮𝆹𝅥𝅮𝆺𝅥𝅮"), (0x1d16f, "𝅘𝅥𝆹𝅥𝆺𝅥", "𝅘𝅥𝅯𝆹𝅥𝅯𝆺𝅥𝅯"),
   (0x1d170, "𝅘𝅥", "𝅘𝅥𝅰"), (0x1d171, "𝅘𝅥", "𝅘𝅥𝅱"), (0x1d172, "𝅘𝅥", "𝅘𝅥𝅲")]

structure Pair where
  first : Char
  second : Char
  whole : Char
  deriving DecidableEq, Repr

def pairsOf (table : List (Nat × String × String)) : List Pair :=
  table.flatMap fun (second, firsts, wholes) =>
    (firsts.toList.zip wholes.toList).map fun (first, whole) =>
      { first, second := Char.ofNat second, whole }

def joining : List Pair := pairsOf joiningPairs

def splitting : List Pair := pairsOf splittingPairs

def pair? (whole : Char) : Option Pair :=
  (joining.find? (·.whole = whole)).or (splitting.find? (·.whole = whole))

/-- The character for a pair that is not left as two. The second of a pair is never before the
marks in the order of code points. -/
def whole? (first second : Char) : Option Char :=
  if second.toNat < 0x300 then none
  else (joining.find? fun p => p.second = second && p.first = first).map (·.whole)

end WorkloadScan.Text.Canonical
