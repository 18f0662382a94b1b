-- SUMMARY: Finding a character by its standard name.
import Docsmith.Text.NameTable

/-!
# Characters by name

Three kinds of names lead to a character. Unified ideographs are named by their code point, and
Hangul syllables by the sounds they are made of; both are written in capitals. All other names
stand in a table, and the case of their letters does not count.
-/

namespace Docsmith.Text

/-! ## Names formed by rule -/

/-- The blocks of unified ideographs. -/
def isIdeograph (n : Nat) : Bool :=
  [(0x3400, 0x4DBF), (0x4E00, 0x9FFF), (0x20000, 0x2A6DF), (0x2A700, 0x2B738), (0x2B740, 0x2B81D),
    (0x2B820, 0x2CEA1), (0x2CEB0, 0x2EBE0), (0x30000, 0x3134A)].any fun (lo, hi) => lo ≤ n && n ≤ hi

/-- A hexadecimal digit in capitals. -/
def capitalHex? (c : Char) : Option Nat :=
  if c.isDigit then some (c.toNat - '0'.toNat)
  else if 'A' ≤ c && c ≤ 'F' then some (c.toNat - 'A'.toNat + 10)
  else none

/-- The ideograph with a code point of four or five hexadecimal digits. -/
def ideograph? (digits : List Char) : Option Char := do
  if digits.length != 4 && digits.length != 5 then none
  let n := (← digits.mapM capitalHex?).foldl (fun n d => 16 * n + d) 0
  if isIdeograph n then some (Char.ofNat n) else none

/-- Sounds that a Hangul syllable begins with. -/
def leadingSounds : List String :=
  ["G", "GG", "N", "D", "DD", "R", "M", "B", "BB", "S", "SS", "", "J", "JJ", "C", "K", "T", "P", "H"]

/-- Vowels of Hangul syllables. -/
def vowelSounds : List String :=
  ["A", "AE", "YA", "YAE", "EO", "E", "YEO", "YE", "O", "WA", "WAE", "OE", "YO", "U", "WEO", "WE", "WI",
    "YU", "EU", "YI", "I"]

/-- Sounds that a Hangul syllable ends with. -/
def trailingSounds : List String :=
  ["", "G", "GG", "GS", "N", "NJ", "NH", "D", "L", "LG", "LM", "LB", "LS", "LT", "LP", "LH", "M", "B",
    "BS", "S", "SS", "NG", "J", "C", "K", "T", "P", "H"]

/-- The longest sound that a text begins with, by its place among the sounds, and the text
    after it. -/
def longestSound? (sounds : List String) (cs : List Char) : Option (Nat × List Char) :=
  let found := sounds.zipIdx.filter fun (s, _) => s.toList.isPrefixOf cs
  let best := found.foldl (fun (b : Option (String × Nat)) x =>
    match b with
    | some y => if y.1.length < x.1.length then some x else some y
    | none => some x) none
  best.map fun (s, i) => (i, cs.drop s.length)

/-- The Hangul syllable that is made of the sounds in a text. -/
def syllable? (cs : List Char) : Option Char := do
  let (l, cs) ← longestSound? leadingSounds cs
  let (v, cs) ← longestSound? vowelSounds cs
  let (t, cs) ← longestSound? trailingSounds cs
  if cs.isEmpty then some (Char.ofNat (0xAC00 + (l * 21 + v) * 28 + t)) else none

/-! ## Names from the table -/

/-- The abbreviation of the word with a given place among the abbreviated words. -/
def abbreviation (place : Nat) : String :=
  let letter (n : Nat) := Char.ofNat ('a'.toNat + n)
  if place < 26 then String.singleton (letter place)
  else String.ofList [letter ((place - 26) / 26), letter ((place - 26) % 26)]

/-- A name with its words abbreviated. -/
def abbreviate (name : String) : String :=
  " ".intercalate <| (name.splitOn " ").map fun word =>
    match (abbreviatedWords.flatMap (·.splitOn " ")).idxOf? word with
    | some place => abbreviation place
    | none => word

/-- The character of a run that has a given abbreviated name. -/
def NameRun.find? (run : NameRun) (name : String) : Option Char :=
  if run.lead.toList.isPrefixOf name.toList then
    let rest := String.ofList (name.toList.drop run.lead.length)
    ((run.rest.flatMap (·.splitOn ";")).idxOf? rest).map fun i => Char.ofNat (run.start + i)
  else none

/-- The character with a name from the table, given in capitals. -/
def listedChar? (name : String) : Option Char :=
  (nameRuns.findSome? (·.find? (abbreviate name))) <|> (secondNames.lookup name).map Char.ofNat

/-- The character with a given standard name. -/
def namedChar? (name : List Char) : Option Char :=
  let ideographs := "CJK UNIFIED IDEOGRAPH-".toList
  let syllables := "HANGUL SYLLABLE ".toList
  if ideographs.isPrefixOf name then ideograph? (name.drop ideographs.length)
  else if syllables.isPrefixOf name then syllable? (name.drop syllables.length)
  else listedChar? (String.ofList (name.map Char.toUpper))

end Docsmith.Text
