import TenantAuth.Regex.Unicode.Class

/-!
# Break properties

How characters behave where text is divided into what a reader takes for characters, into words and
into sentences.
-/
namespace TenantAuth.CharSet

/-- The characters that line breaks of some scripts need a dictionary for. -/
def complexContext : List String := [
  "E01-E3A E40-E4E E81-E82 E84 E86-E8A E8C-EA3 EA5 EA7-EBD EC0-EC4 EC6 EC8-ECE EDC-EDF 1000-103F",
  "1050-108F 109A-109F 1780-17D3 17D7 17DC-17DD 1950-196D 1970-1974 1980-19AB 19B0-19C9 19DA",
  "19DE-19DF 1A20-1A5E 1A60-1A7C 1AA0-1AAD A9E0-A9EF A9FA-A9FE AA60-AAC2 AADB-AADF 11700-1171A",
  "1171D-1172B 1173A-1173B 1173F-11746"]

/-- Carriage returns, line feeds, joiners and the letters of flags, which all properties tell
apart. -/
def commonBreaks : List (List String × (Unit → CharSet)) := [
  (["cr"], fun _ => ofLines ["D"]),
  (["lf"], fun _ => ofLines ["A"])]

/-- Marks that extend a character or a word. -/
def extending : CharSet := graphemeExtend.union (property "emojimodifier")

/-- Marks that stand before a character. -/
def prepended : CharSet :=
  (property "prependedconcatenationmark").union
    (ofLines ["D4E 111C2-111C3 113D1 1193F 11941 11A3A 11A84-11A89 11D46 11F02"])

/-- Hangul syllables without a final consonant. -/
def openSyllables : CharSet :=
  ofRanges ((List.range 399).map fun k => (0xAC00 + 28 * k, 0xAC00 + 28 * k))

/-- Hangul syllables. -/
def syllables : CharSet := ofRanges [(0xAC00, 0xD7A3)]

/-- How characters behave inside of what a reader takes for one. -/
def graphemeBreaks : List (List String × (Unit → CharSet)) := commonBreaks ++ [
  (["cn", "control"], fun _ =>
    (unions [ofCategories ["Zl", "Zp", "Cc", "Cf"],
      (ofCategories ["Cn"]).inter defaultIgnorable]).diff
      (unions [extending, prepended, ofLines ["A D 200C-200D"]])),
  (["ex", "extend"], fun _ => extending),
  (["pp", "prepend"], fun _ => prepended),
  (["sm", "spacingmark"], fun _ =>
    ((ofCategories ["Mc"]).union (ofLines ["E33 EB3"])).diff (extending.union (ofLines [
      "102B-102C 1038 1062-1064 1067-106D 1083 1087-108C 108F 109A-109C 1A61 1A63-1A64 AA7B AA7D",
      "11720-11721"]))),
  (["l"], fun _ => ofLines ["1100-115F A960-A97C"]),
  (["v"], fun _ => ofLines ["1160-11A7 D7B0-D7C6 16D63 16D67-16D6A"]),
  (["t"], fun _ => ofLines ["11A8-11FF D7CB-D7FB"]),
  (["lv"], fun _ => openSyllables),
  (["lvt"], fun _ => syllables.diff openSyllables),
  (["ri", "regionalindicator"], fun _ => property "regionalindicator"),
  (["zwj"], fun _ => ofLines ["200D"])]

/-- Marks that extend a word or a sentence. -/
def extendingOrSpacing : CharSet := graphemeExtend.union (ofCategories ["Mc"])

/-- The Georgian letters, which sentences do not tell apart by case. -/
def georgianLetters : CharSet := ofLines ["10D0-10FA 10FD-10FF 1C90-1CBA 1CBD-1CBF"]

/-- The full stops that may end an abbreviation. -/
def ambiguousStops : CharSet := ofLines ["2E 2024 FE52 FF0E"]

/-- Small letters as sentences tell them. -/
def sentenceLower : CharSet :=
  (lowercase.diff (graphemeExtend.union georgianLetters)).union (ofLines ["295"])

/-- Capital letters as sentences tell them. -/
def sentenceUpper : CharSet := ((ofCategories ["Lt"]).union uppercase).diff georgianLetters

/-- How characters behave at the ends of sentences. -/
def sentenceBreaks : List (List String × (Unit → CharSet)) := commonBreaks ++ [
  (["ex", "extend"], fun _ => extendingOrSpacing.union (ofLines ["200D"])),
  (["se", "sep"], fun _ => ofLines ["85 2028-2029"]),
  (["fo", "format"], fun _ =>
    (ofCategories ["Cf"]).diff (graphemeExtend.union (ofLines ["200C-200D"]))),
  (["sp"], fun _ => ofLines ["9 B-C 20 A0 1680 2000-200A 202F 205F 3000"]),
  (["lo", "lower"], fun _ => sentenceLower),
  (["up", "upper"], fun _ => sentenceUpper),
  (["le", "oletter"], fun _ =>
    (unions [alphabetic, georgianLetters, ofLines ["5F3"]]).diff
      (unions [sentenceLower, sentenceUpper, extendingOrSpacing])),
  (["nu", "numeric"], fun _ => digits.union (ofLines ["66B-66C"])),
  (["at", "aterm"], fun _ => ambiguousStops),
  (["st", "sterm"], fun _ => (property "sentenceterminal").diff ambiguousStops),
  (["cl", "close"], fun _ => (ofCategories ["Ps", "Pe", "Pi", "Pf"]).union
    (ofLines ["22 27 275B-2760 2E00-2E01 2E06-2E08 2E0B 1F676-1F678"])),
  (["sc", "scontinue"], fun _ => ofLines [
    "2C-2D 3A-3B 37E 55D 60C-60D 7F8 1802 1808 2013-2014 3001 FE10-FE11 FE13-FE14 FE31-FE32",
    "FE50-FE51 FE54-FE55 FE58 FE63 FF0C-FF0D FF1A-FF1B FF64"])]

/-- The letters of Hebrew. -/
def hebrewLetters : CharSet := ((script? "hebr").getD empty).inter (ofCategories ["Lo"])

/-- The characters of Katakana and the marks that go with them. -/
def katakana : CharSet :=
  ((script? "kana").getD empty).union (ofLines ["3031-3035 309B-309C 30A0 30FC FF70"])

/-- How characters behave at the ends of words. -/
def wordBreaks : List (List String × (Unit → CharSet)) := commonBreaks ++ [
  (["nl", "newline"], fun _ => ofLines ["B-C 85 2028-2029"]),
  (["extend"], fun _ => extendingOrSpacing.union (property "emojimodifier")),
  (["zwj"], fun _ => ofLines ["200D"]),
  (["ri", "regionalindicator"], fun _ => property "regionalindicator"),
  (["fo", "format"], fun _ =>
    (ofCategories ["Cf"]).diff (extendingOrSpacing.union (ofLines ["200B-200D"]))),
  (["ka", "katakana"], fun _ => katakana),
  (["hl", "hebrewletter"], fun _ => hebrewLetters),
  (["le", "aletter"], fun _ =>
    (alphabetic.diff (unions [property "ideographic", katakana, (script? "hira").getD empty,
      ofLines complexContext, extendingOrSpacing, hebrewLetters])).union (ofLines [
      "2C2-2C5 2D2-2D7 2DE-2DF 2E5-2EB 2ED 2EF-2FF 55A-55C 55E 58A 5F3 A708-A716 A720-A721",
      "A789-A78A AB5B"])),
  (["sq", "singlequote"], fun _ => ofLines ["27"]),
  (["dq", "doublequote"], fun _ => ofLines ["22"]),
  (["mb", "midnumlet"], fun _ => ofLines ["2E 2018-2019 2024 FE52 FF07 FF0E"]),
  (["ml", "midletter"], fun _ => ofLines ["3A B7 387 55F 5F4 2027 FE13 FE55 FF1A"]),
  (["mn", "midnum"], fun _ =>
    ofLines ["2C 3B 37E 589 60C-60D 66C 7F8 2044 FE10 FE14 FE50 FE54 FF0C FF1B"]),
  (["nu", "numeric"], fun _ => digits.union (ofLines ["66B"])),
  (["ex", "extendnumlet"], fun _ => (ofCategories ["Pc"]).union (ofLines ["202F"])),
  (["wsegspace"], fun _ => ofLines ["20 1680 2000-2006 2008-200A 205F 3000"])]

/-- The characters of a break property and its value. -/
def breakClass? (table : List (List String × (Unit → CharSet))) (value : String) : Option CharSet :=
  (listed? table value).map (· ())

end TenantAuth.CharSet
