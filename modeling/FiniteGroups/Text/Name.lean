import FiniteGroups.Text.Name.Alphabets
import FiniteGroups.Text.Name.Ancient
import FiniteGroups.Text.Name.Pictures
import FiniteGroups.Text.Name.Syllables
import FiniteGroups.Text.Name.Symbols

/-!
# Names of characters

The names that the Unicode standard gives to characters: those of its table, the other names of
some characters, and the names of ideographs and syllables, which follow a rule. A name may be
written in letters of either case, one that follows a rule in capital letters only.

* `named?` : the code point of a name.

The names of the table stand in the order of their code points. A name is written without the
words that it begins with like the one before it; their number stands in front, unless there are
none. Where a code point does not follow the one before it, it is written in front as well, in
base sixteen and with a colon. A sharp sign at the end of a name is its own code point.
-/

namespace FiniteGroups.Text

/-- Other names of characters, most of which have no name of their own. -/
def aliases : List (String × Nat) :=
  [("NULL", 0x0), ("NUL", 0x0), ("START OF HEADING", 0x1), ("SOH", 0x1), ("START OF TEXT", 0x2),
    ("STX", 0x2), ("END OF TEXT", 0x3), ("ETX", 0x3), ("END OF TRANSMISSION", 0x4), ("EOT", 0x4),
    ("ENQUIRY", 0x5), ("ENQ", 0x5), ("ACKNOWLEDGE", 0x6), ("ACK", 0x6), ("ALERT", 0x7),
    ("BEL", 0x7), ("BACKSPACE", 0x8), ("BS", 0x8), ("CHARACTER TABULATION", 0x9),
    ("HORIZONTAL TABULATION", 0x9), ("HT", 0x9), ("TAB", 0x9), ("LINE FEED", 0xa),
    ("NEW LINE", 0xa), ("END OF LINE", 0xa), ("LF", 0xa), ("NL", 0xa), ("EOL", 0xa),
    ("LINE TABULATION", 0xb), ("VERTICAL TABULATION", 0xb), ("VT", 0xb), ("FORM FEED", 0xc),
    ("FF", 0xc), ("CARRIAGE RETURN", 0xd), ("CR", 0xd), ("SHIFT OUT", 0xe),
    ("LOCKING-SHIFT ONE", 0xe), ("SO", 0xe), ("SHIFT IN", 0xf), ("LOCKING-SHIFT ZERO", 0xf),
    ("SI", 0xf), ("DATA LINK ESCAPE", 0x10), ("DLE", 0x10), ("DEVICE CONTROL ONE", 0x11),
    ("DC1", 0x11), ("DEVICE CONTROL TWO", 0x12), ("DC2", 0x12), ("DEVICE CONTROL THREE", 0x13),
    ("DC3", 0x13), ("DEVICE CONTROL FOUR", 0x14), ("DC4", 0x14), ("NEGATIVE ACKNOWLEDGE", 0x15),
    ("NAK", 0x15), ("SYNCHRONOUS IDLE", 0x16), ("SYN", 0x16), ("END OF TRANSMISSION BLOCK", 0x17),
    ("ETB", 0x17), ("CANCEL", 0x18), ("CAN", 0x18), ("END OF MEDIUM", 0x19), ("EOM", 0x19),
    ("SUBSTITUTE", 0x1a), ("SUB", 0x1a), ("ESCAPE", 0x1b), ("ESC", 0x1b),
    ("INFORMATION SEPARATOR FOUR", 0x1c), ("FILE SEPARATOR", 0x1c), ("FS", 0x1c),
    ("INFORMATION SEPARATOR THREE", 0x1d), ("GROUP SEPARATOR", 0x1d), ("GS", 0x1d),
    ("INFORMATION SEPARATOR TWO", 0x1e), ("RECORD SEPARATOR", 0x1e), ("RS", 0x1e),
    ("INFORMATION SEPARATOR ONE", 0x1f), ("UNIT SEPARATOR", 0x1f), ("US", 0x1f), ("SP", 0x20),
    ("DELETE", 0x7f), ("DEL", 0x7f), ("PADDING CHARACTER", 0x80), ("PAD", 0x80),
    ("HIGH OCTET PRESET", 0x81), ("HOP", 0x81), ("BREAK PERMITTED HERE", 0x82), ("BPH", 0x82),
    ("NO BREAK HERE", 0x83), ("NBH", 0x83), ("INDEX", 0x84), ("IND", 0x84), ("NEXT LINE", 0x85),
    ("NEL", 0x85), ("START OF SELECTED AREA", 0x86), ("SSA", 0x86), ("END OF SELECTED AREA", 0x87),
    ("ESA", 0x87), ("CHARACTER TABULATION SET", 0x88), ("HORIZONTAL TABULATION SET", 0x88),
    ("HTS", 0x88), ("CHARACTER TABULATION WITH JUSTIFICATION", 0x89),
    ("HORIZONTAL TABULATION WITH JUSTIFICATION", 0x89), ("HTJ", 0x89),
    ("LINE TABULATION SET", 0x8a), ("VERTICAL TABULATION SET", 0x8a), ("VTS", 0x8a),
    ("PARTIAL LINE FORWARD", 0x8b), ("PARTIAL LINE DOWN", 0x8b), ("PLD", 0x8b),
    ("PARTIAL LINE BACKWARD", 0x8c), ("PARTIAL LINE UP", 0x8c), ("PLU", 0x8c),
    ("REVERSE LINE FEED", 0x8d), ("REVERSE INDEX", 0x8d), ("RI", 0x8d), ("SINGLE SHIFT TWO", 0x8e),
    ("SINGLE-SHIFT-2", 0x8e), ("SS2", 0x8e), ("SINGLE SHIFT THREE", 0x8f),
    ("SINGLE-SHIFT-3", 0x8f), ("SS3", 0x8f), ("DEVICE CONTROL STRING", 0x90), ("DCS", 0x90),
    ("PRIVATE USE ONE", 0x91), ("PRIVATE USE-1", 0x91), ("PU1", 0x91), ("PRIVATE USE TWO", 0x92),
    ("PRIVATE USE-2", 0x92), ("PU2", 0x92), ("SET TRANSMIT STATE", 0x93), ("STS", 0x93),
    ("CANCEL CHARACTER", 0x94), ("CCH", 0x94), ("MESSAGE WAITING", 0x95), ("MW", 0x95),
    ("START OF GUARDED AREA", 0x96), ("START OF PROTECTED AREA", 0x96), ("SPA", 0x96),
    ("END OF GUARDED AREA", 0x97), ("END OF PROTECTED AREA", 0x97), ("EPA", 0x97),
    ("START OF STRING", 0x98), ("SOS", 0x98), ("SINGLE GRAPHIC CHARACTER INTRODUCER", 0x99),
    ("SGC", 0x99), ("SINGLE CHARACTER INTRODUCER", 0x9a), ("SCI", 0x9a),
    ("CONTROL SEQUENCE INTRODUCER", 0x9b), ("CSI", 0x9b), ("STRING TERMINATOR", 0x9c),
    ("ST", 0x9c), ("OPERATING SYSTEM COMMAND", 0x9d), ("OSC", 0x9d), ("PRIVACY MESSAGE", 0x9e),
    ("PM", 0x9e), ("APPLICATION PROGRAM COMMAND", 0x9f), ("APC", 0x9f), ("NBSP", 0xa0),
    ("SHY", 0xad), ("LATIN CAPITAL LETTER GHA", 0x1a2), ("LATIN SMALL LETTER GHA", 0x1a3),
    ("CGJ", 0x34f), ("ALM", 0x61c), ("SYRIAC SUBLINEAR COLON SKEWED LEFT", 0x709),
    ("KANNADA LETTER LLLA", 0xcde), ("LAO LETTER FO FON", 0xe9d), ("LAO LETTER FO FAY", 0xe9f),
    ("LAO LETTER RO", 0xea3), ("LAO LETTER LO", 0xea5),
    ("TIBETAN MARK BKA- SHOG GI MGO RGYAN", 0xfd0), ("HANGUL JONGSEONG YESIEUNG-KIYEOK", 0x11ec),
    ("HANGUL JONGSEONG YESIEUNG-SSANGKIYEOK", 0x11ed), ("HANGUL JONGSEONG SSANGYESIEUNG", 0x11ee),
    ("HANGUL JONGSEONG YESIEUNG-KHIEUKH", 0x11ef), ("FVS1", 0x180b), ("FVS2", 0x180c),
    ("FVS3", 0x180d), ("MVS", 0x180e), ("FVS4", 0x180f), ("ZWSP", 0x200b), ("ZWNJ", 0x200c),
    ("ZWJ", 0x200d), ("LRM", 0x200e), ("RLM", 0x200f), ("LRE", 0x202a), ("RLE", 0x202b),
    ("PDF", 0x202c), ("LRO", 0x202d), ("RLO", 0x202e), ("NNBSP", 0x202f), ("MMSP", 0x205f),
    ("WJ", 0x2060), ("LRI", 0x2066), ("RLI", 0x2067), ("FSI", 0x2068), ("PDI", 0x2069),
    ("WEIERSTRASS ELLIPTIC FUNCTION", 0x2118), ("MICR ON US SYMBOL", 0x2448),
    ("MICR DASH SYMBOL", 0x2449),
    ("LEFTWARDS TRIANGLE-HEADED ARROW WITH DOUBLE VERTICAL STROKE", 0x2b7a),
    ("RIGHTWARDS TRIANGLE-HEADED ARROW WITH DOUBLE VERTICAL STROKE", 0x2b7c),
    ("YI SYLLABLE ITERATION MARK", 0xa015), ("MYANMAR LETTER KHAMTI LLA", 0xaa6e),
    ("PRESENTATION FORM FOR VERTICAL RIGHT WHITE LENTICULAR BRACKET", 0xfe18),
    ("BYTE ORDER MARK", 0xfeff), ("BOM", 0xfeff), ("ZWNBSP", 0xfeff),
    ("CUNEIFORM SIGN NU11 TENU", 0x122d4), ("CUNEIFORM SIGN NU11 OVER NU11 BUR OVER BUR", 0x122d5),
    ("MEDEFAIDRIN CAPITAL LETTER H", 0x16e56), ("MEDEFAIDRIN CAPITAL LETTER NG", 0x16e57),
    ("MEDEFAIDRIN SMALL LETTER H", 0x16e76), ("MEDEFAIDRIN SMALL LETTER NG", 0x16e77),
    ("HENTAIGANA LETTER E-1", 0x1b001),
    ("BYZANTINE MUSICAL SYMBOL FTHORA SKLIRON CHROMA VASIS", 0x1d0c5)]

/-- The ranges of the ideographs that are named by their numbers. -/
def ideographs : List (Nat × Nat) :=
  [(0x3400, 0x4dbf), (0x4e00, 0x9fff), (0x20000, 0x2a6df), (0x2a700, 0x2b738), (0x2b740, 0x2b81d),
    (0x2b820, 0x2cea1), (0x2ceb0, 0x2ebe0), (0x30000, 0x3134a)]

/-! ## Names that follow a rule -/

/-- The value of a capital digit in base sixteen. -/
def capitalDigit? (c : Char) : Option Nat :=
  if c.isDigit then some (c.toNat - 48)
  else if 65 ≤ c.toNat ∧ c.toNat < 71 then some (c.toNat - 55)
  else none

/-- The number that capital digits in base sixteen spell. -/
def capitalNumber? (digits : List Char) : Option Nat := do
  return (← digits.mapM capitalDigit?).foldl (fun n d => 16 * n + d) 0

/-- The ideograph of a name that holds its number, in four or five digits of base sixteen. -/
def ideograph? (name : String) : Option Nat := do
  let digits ← (name.dropPrefix? "CJK UNIFIED IDEOGRAPH-").map (·.toString.toList)
  let n ← capitalNumber? digits
  let known := ideographs.any fun r => r.1 ≤ n && n ≤ r.2
  if known && (digits.length == 4 || digits.length == 5) then return n else none

/-- The parts of the names of syllables: what stands in front of a vowel, the vowel, and what
stands behind it. -/
def syllableParts : List String × List String × List String :=
  ("G GG N D DD R M B BB S SS  J JJ C K T P H".splitOn " ",
    "A AE YA YAE EO E YEO YE O WA WAE OE YO U WEO WE WI YU EU YI I".splitOn " ",
    " G GG GS N NJ NH D L LG LM LB LS LT LP LH M B BS S SS NG J C K T P H".splitOn " ")

/-- The syllable of a name that is composed of its parts. -/
def syllable? (name : String) : Option Nat := do
  let rest ← (name.dropPrefix? "HANGUL SYLLABLE ").map (·.toString)
  let (fronts, vowels, backs) := syllableParts
  fronts.zipIdx.findSome? fun (front, i) => vowels.zipIdx.findSome? fun (vowel, j) =>
    backs.zipIdx.findSome? fun (back, k) =>
      if front ++ vowel ++ back == rest then some (0xac00 + (i * 21 + j) * 28 + k) else none

/-- The short names of the selectors of variations, which are numbered. -/
def selector? (name : String) : Option Nat :=
  (List.range 256).findSome? fun i =>
    if name == s!"VS{i + 1}" then some (if i < 16 then 0xfe00 + i else 0xe00f0 + i) else none

/-! ## Names of the table -/

namespace Name

/-- An entry of the table: a code point that does not follow the last one, the number of words
that are taken from the last name, and the other words. -/
structure Entry where
  point : Option Nat
  shared : Nat
  words : List String

/-- Reads an entry. -/
def Entry.read (s : String) : Entry :=
  let cs := s.toList
  let (point, cs) := match cs.dropWhile (· != ':') with
    | _ :: rest => (capitalNumber? (cs.takeWhile (· != ':')), rest)
    | [] => (none, cs)
  let (shared, cs) := match cs with
    | c :: rest => if c.isDigit then (c.toNat - 48, rest) else (0, cs)
    | [] => (0, [])
  ⟨point, shared, (String.ofList cs).splitOn " "⟩

/-- How far a search in the table has come: the code point of the next entry, and how many words
of the name that is looked for the last entry begins with. -/
structure Place where
  next : Nat
  matched : Nat

/-- Whether a word is the one looked for. A sharp sign at its end is the code point. -/
def isWord (point : Nat) (word wanted : String) : Bool :=
  word == wanted ||
    (word.endsWith "#" && (word.dropEnd 1).toString ++ String.ofList (digits point) == wanted)
where
  /-- The digits of a code point in base sixteen. -/
  digits (n : Nat) : List Char := (Nat.toDigits 16 n).map Char.toUpper

/-- How many words at the start of a list are the ones looked for. -/
def matching (point : Nat) : List String → List String → Nat
  | w :: ws, v :: vs => if isWord point w v then matching point ws vs + 1 else 0
  | _, _ => 0

/-- Goes on to the next entry of the table; the code point, if it has the name looked for. An
entry that takes more words from the last name than are right is as wrong as that one. -/
def step (wanted : List String) (p : Place) (e : Entry) : Place × Option Nat :=
  let point := e.point.getD p.next
  if p.matched < e.shared then (⟨point + 1, p.matched⟩, none)
  else
    let matched := e.shared + matching point e.words (wanted.drop e.shared)
    let whole := matched == e.shared + e.words.length && matched == wanted.length
    (⟨point + 1, matched⟩, if whole then some point else none)

/-- The code point of a name among the entries of a table. -/
def search (wanted : List String) (p : Place) : List String → Option Nat
  | [] => none
  | s :: rest =>
    match step wanted p (.read s) with
    | (_, some point) => some point
    | (p, none) => search wanted p rest

/-- The code point of a name in one of the tables. -/
def inTable? (wanted : List String) (table : List String) : Option Nat :=
  search wanted ⟨0, 0⟩ (table.flatMap (·.splitOn ";"))

end Name

/-- The code point of a name. -/
def named? (name : String) : Option Nat :=
  let upper := name.toUpper
  let wanted := upper.splitOn " "
  (ideograph? name).or ((syllable? name).or ((aliases.lookup upper).or ((selector? upper).or
    ([Name.alphabets, Name.symbols, Name.syllables, Name.ancient, Name.pictures].findSome?
      (Name.inTable? wanted)))))

end FiniteGroups.Text
