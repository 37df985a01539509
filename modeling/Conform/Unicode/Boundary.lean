import Conform.Unicode.Property

/-! # Boundaries in text

Code points fall into classes by how they behave at the boundaries of
user-perceived characters, of words and of sentences.  Code points without a
class of one of the three kinds have no name there.
-/
namespace Conform.Unicode

/-- Code points that are written as part of the character before them. -/
def joined : CharSet := graphemeExtend.union (categories ["mc"])

def numeric : CharSet :=
  decimalDigit.union (.ofTable "600-605 66B 6DD 890-891 8E2 19DA 110BD 110CD")

/-- Syllables of the alphabetic script that is written in syllable blocks. -/
def syllables : CharSet := ⟨[(0xAC00, 0xD7A3)]⟩

def openSyllables : CharSet := .ofTable "AC00-D788/1C"

/-- The classes of code points at the boundaries of user-perceived characters. -/
def graphemeBreaks : List (List String × CharSet) := [
  (["cr"], .singleton 0x0D),
  (["lf"], .singleton 0x0A),
  (["cn", "control"],
    (CharSet.unions [categories ["zl", "zp", "cc", "cf"],
        defaultIgnorable.diff assigned]).diff
      (.unions [graphemeExtend, tabled "prependedconcatenationmark", .ofTable "A D 200D"])),
  (["ex", "extend"], graphemeExtend.union (tabled "emojimodifier")),
  (["zwj"], .singleton 0x200D),
  (["regionalindicator", "ri"], tabled "regionalindicator"),
  (["pp", "prepend"],
    (tabled "prependedconcatenationmark").union (.ofTable
      "D4E 111C2-111C3 113D1 1193F 11941 11A3A 11A84-11A89 11D46 11F02")),
  (["sm", "spacingmark"],
    corrected ((categories ["mc"]).diff graphemeExtend)
      "E33 EB3"
      "
        102B-102C 1038 1062-1064 1067-106D 1083 1087-108C 108F 109A-109C 1A61 1A63-1A64 AA7B
        AA7D 11720-11721"),
  (["l"], .ofTable "1100-115F A960-A97C"),
  (["v"], .ofTable "1160-11A7 D7B0-D7C6 16D63 16D67-16D6A"),
  (["t"], .ofTable "11A8-11FF D7CB-D7FB"),
  (["lv"], openSyllables),
  (["lvt"], syllables.diff openSyllables)]

/-- Letters of scripts that write no blanks between words. -/
def unspacedLetters : CharSet :=
  .ofTable
    "
      E01-E30 E32-E33 E40-E46 E81-E82 E84 E86-E8A E8C-EA3 EA5 EA7-EB0 EB2-EB3 EBD EC0-EC4 EC6
      EDC-EDF 1000-102A 103F 1050-1055 105A-105D 1061 1065-1066 106E-1070 1075-1081 108E
      1780-17B3 17D7 17DC 1950-196D 1970-1974 1980-19AB 19B0-19C9 1A20-1A54 1AA7 A9E0-A9E4
      A9E6-A9EF A9FA-A9FE AA60-AA76 AA7A AA7E-AAAF AAB1 AAB5-AAB6 AAB9-AABD AAC0 AAC2 AADB-AADD
      11700-1171A 11740-11746"

/-- The classes of code points at the boundaries of words. -/
def wordBreaks : List (List String × CharSet) :=
  let katakana := ((findNamed? scriptTable "katakana").getD .empty).union (.ofTable
    "3031-3035 309B-309C 30A0 30FC FF70")
  let hebrew := ((findNamed? scriptTable "hebrew").getD .empty).inter (categories ["lo"])
  let hiragana := (findNamed? scriptTable "hiragana").getD .empty
  let extend := joined.union (tabled "emojimodifier")
  [(["cr"], .singleton 0x0D),
   (["lf"], .singleton 0x0A),
   (["newline", "nl"], .ofTable "B-C 85 2028-2029"),
   (["extend"], extend),
   (["zwj"], .singleton 0x200D),
   (["fo", "format"],
     ((categories ["cf"]).diff graphemeExtend).diff (.ofTable
      "600-605 6DD 70F 890-891 8E2 200B 200D 110BD 110CD")),
   (["regionalindicator", "ri"], tabled "regionalindicator"),
   (["ka", "katakana"], katakana),
   (["hebrewletter", "hl"], hebrew),
   (["aletter", "le"],
     (alphabetic.union (.ofTable
      "
        2C2-2C5 2D2-2D7 2DE-2DF 2E5-2EB 2ED 2EF-2FF 55A-55C 55E 58A 5F3 70F A708-A716 A720-A721
        A789-A78A AB5B")).diff
      (.unions [tabled "ideographic", katakana, hebrew, hiragana, extend, unspacedLetters])),
   (["singlequote", "sq"], .singleton 0x27),
   (["doublequote", "dq"], .singleton 0x22),
   (["mb", "midnumlet"], midNumLet),
   (["midletter", "ml"], midLetter),
   (["midnum", "mn"], .ofTable "2C 3B 37E 589 60C-60D 66C 7F8 2044 FE50 FE54 FF0C FF1B"),
   (["nu", "numeric"], numeric),
   (["ex", "extendnumlet"], (categories ["pc"]).union (.singleton 0x202F)),
   (["wsegspace"], (categories ["zs"]).diff (.ofTable "A0 2007 202F"))]

def sentenceBreaks : List (List String × CharSet) :=
  let lower := (lowercase.diff graphemeExtend).diff (.ofTable "10D0-10FA 10FD-10FF")
  let upper := (uppercase.union (categories ["lt"])).diff (.ofTable "1C90-1CBA 1CBD-1CBF")
  let extend := joined.union (.singleton 0x200D)
  let period := CharSet.ofTable "2E 2024 FE52 FF0E"
  [(["cr"], .singleton 0x0D),
   (["lf"], .singleton 0x0A),
   (["ex", "extend"], extend),
   (["se", "sep"], .ofTable "85 2028-2029"),
   (["fo", "format"],
     ((categories ["cf"]).diff graphemeExtend).diff (.ofTable
      "600-605 6DD 890-891 8E2 200D 110BD 110CD")),
   (["sp"], whiteSpace.diff (.ofTable "A D 85 2028-2029")),
   (["lo", "lower"], lower),
   (["up", "upper"], upper),
   (["le", "oletter"],
     (alphabetic.union (.singleton 0x05F3)).diff (.unions [lower, upper, extend])),
   (["nu", "numeric"], numeric.union (.singleton 0x066C)),
   (["at", "aterm"], period),
   (["st", "sterm"], (tabled "sentenceterminal").diff period),
   (["sc", "scontinue"],
     .ofTable
      "
        2C-2D 3A-3B 37E 55D 60C-60D 7F8 1802 1808 2013-2014 3001 FE10-FE11 FE13-FE14 FE31-FE32
        FE50-FE51 FE54-FE55 FE58 FE63 FF0C-FF0D FF1A-FF1B FF64"),
   (["cl", "close"],
     (categories ["ps", "pe", "pi", "pf"]).union (.ofTable
      "22 27 275B-2760 2E00-2E01 2E06-2E08 2E0B 1F676-1F678"))]

def graphemeBreak? (name : String) : Option CharSet := findSet? graphemeBreaks name

def wordBreak? (name : String) : Option CharSet := findSet? wordBreaks name

def sentenceBreak? (name : String) : Option CharSet := findSet? sentenceBreaks name

end Conform.Unicode
