import TenantAuth.Regex.CharSet
import TenantAuth.Regex.Unicode.Category
import TenantAuth.Regex.Unicode.Script
import TenantAuth.Regex.Unicode.Property
import TenantAuth.Regex.Unicode.Age

/-!
# Classes of characters

Categories, scripts, ages and properties as sets, by their names in lower case without blanks,
hyphens and underscores.
-/
namespace TenantAuth.CharSet

/-- What is listed under a name. -/
def listed? (table : List (List String × α)) (name : String) : Option α :=
  (table.find? (name ∈ ·.1)).map (·.2)

/-! ## Categories -/

/-- The names of categories, with those that they are made up of. -/
def categoryNames : List (List String × List String) := [
  (["c", "other"], ["Cc", "Cf", "Co", "Cn"]),
  (["cc", "control", "cntrl"], ["Cc"]),
  (["cf", "format"], ["Cf"]),
  (["cn", "unassigned"], ["Cn"]),
  (["co", "privateuse"], ["Co"]),
  (["l", "letter"], ["Lu", "Ll", "Lt", "Lm", "Lo"]),
  (["lc", "casedletter"], ["Lu", "Ll", "Lt"]),
  (["ll", "lowercaseletter"], ["Ll"]),
  (["lm", "modifierletter"], ["Lm"]),
  (["lo", "otherletter"], ["Lo"]),
  (["lt", "titlecaseletter"], ["Lt"]),
  (["lu", "uppercaseletter"], ["Lu"]),
  (["m", "mark", "combiningmark"], ["Mn", "Mc", "Me"]),
  (["mc", "spacingmark"], ["Mc"]),
  (["me", "enclosingmark"], ["Me"]),
  (["mn", "nonspacingmark"], ["Mn"]),
  (["n", "number"], ["Nd", "Nl", "No"]),
  (["nd", "decimalnumber", "digit"], ["Nd"]),
  (["nl", "letternumber"], ["Nl"]),
  (["no", "othernumber"], ["No"]),
  (["p", "punctuation", "punct"], ["Pc", "Pd", "Ps", "Pe", "Pi", "Pf", "Po"]),
  (["pc", "connectorpunctuation"], ["Pc"]),
  (["pd", "dashpunctuation"], ["Pd"]),
  (["pe", "closepunctuation"], ["Pe"]),
  (["pf", "finalpunctuation"], ["Pf"]),
  (["pi", "initialpunctuation"], ["Pi"]),
  (["po", "otherpunctuation"], ["Po"]),
  (["ps", "openpunctuation"], ["Ps"]),
  (["s", "symbol"], ["Sm", "Sc", "Sk", "So"]),
  (["sc", "currencysymbol"], ["Sc"]),
  (["sk", "modifiersymbol"], ["Sk"]),
  (["sm", "mathsymbol"], ["Sm"]),
  (["so", "othersymbol"], ["So"]),
  (["z", "separator"], ["Zs", "Zl", "Zp"]),
  (["zl", "lineseparator"], ["Zl"]),
  (["zp", "paragraphseparator"], ["Zp"]),
  (["zs", "spaceseparator"], ["Zs"])]

/-- All characters of some category. -/
def assigned : CharSet := ofLines (categoryRanges.flatMap (·.2))

/-- The characters of some categories, by their short names. -/
def ofCategories (names : List String) : CharSet :=
  let listed := ofLines (names.flatMap fun n => (categoryRanges.lookup n).getD [])
  if "Cn" ∈ names then listed.union assigned.compl else listed

/-- The category of a name, or one of the classes that are named like categories. -/
def category? (name : String) : Option CharSet :=
  if name = "any" then some all
  else if name = "assigned" then some assigned
  else if name = "ascii" then some ascii
  else (listed? categoryNames name).map ofCategories

/-! ## Scripts and ages -/

/-- The characters of a script. -/
def script? (name : String) : Option CharSet := (listed? scriptRanges name).map ofLines

/-- The characters that are used in a script: its own, but for those that are used in others only,
and those of other scripts that are used in it too. -/
def scriptExtension? (name : String) : Option CharSet := do
  let names ← scriptRanges.find? (name ∈ ·.1)
  let uses (shorts : String) : Bool := (wordsOf shorts).any fun w => String.ofList w ∈ names.1
  let listed := ofLines (scriptExtensions.map (·.1))
  let used := ofLines ((scriptExtensions.filter fun e => uses e.2).map (·.1))
  return ((ofLines names.2).diff listed).union used

/-- The characters that a version of Unicode has. -/
def age? (name : String) : Option CharSet :=
  match ageRanges.dropWhile (name ∉ ·.1) with
  | [] => none
  | _ :: newer => some (ofLines ((ageRanges.take (ageRanges.length - newer.length)).flatMap (·.2)))

/-! ## Properties -/

/-- The characters with a property that is listed. -/
def property (name : String) : CharSet := ofLines ((listed? propertyRanges name).getD [])

/-- Small letters and the like. -/
def lowercase : CharSet := (ofCategories ["Ll"]).union (property "otherlowercase")

/-- Capital letters and the like. -/
def uppercase : CharSet := (ofCategories ["Lu"]).union (property "otheruppercase")

/-- Letters and the like. -/
def alphabetic : CharSet :=
  unions [lowercase, uppercase, ofCategories ["Lt", "Lm", "Lo", "Nl"], property "otheralphabetic"]

/-- Marks and the like, which extend the character before. -/
def graphemeExtend : CharSet := (ofCategories ["Mn", "Me"]).union (property "othergraphemeextend")

/-- Characters of patterns, which identifiers do not have. -/
def patternCharacters : CharSet := (property "patternsyntax").union (property "patternwhitespace")

/-- Characters that may start an identifier. -/
def identifierStart : CharSet :=
  ((ofCategories ["Lu", "Ll", "Lt", "Lm", "Lo", "Nl"]).union (property "otheridstart")).diff
    patternCharacters

/-- Characters that may be in an identifier. -/
def identifierContinue : CharSet :=
  (unions [identifierStart, ofCategories ["Mn", "Mc", "Nd", "Pc"], property "otheridcontinue"]).diff
    patternCharacters

/-- Characters that show nothing where they are not supported. -/
def defaultIgnorable : CharSet :=
  (unions [property "otherdefaultignorablecodepoint", ofCategories ["Cf"],
    property "variationselector"]).diff
    (unions [property "whitespace", property "prependedconcatenationmark",
      ofRanges [(0xFFF9, 0xFFFB), (0x13430, 0x13440)]])

/-- Characters that differ from their small letters. -/
def changesWhenLowercased : CharSet :=
  (ofCategories ["Lu", "Lt"]).symmDiff (ofLines unchangedCapitals)

/-- Characters that differ from their capital letters. -/
def changesWhenUppercased : CharSet := (ofCategories ["Ll"]).symmDiff (ofLines unchangedSmalls)

/-- Characters that differ from their title letters. -/
def changesWhenTitlecased : CharSet := changesWhenUppercased.symmDiff (ofLines unlikeTitles)

/-- The properties that are made up of others. -/
def derivedProperties : List (List String × (Unit → CharSet)) := [
  (["lowercase", "lower"], fun _ => lowercase),
  (["uppercase", "upper"], fun _ => uppercase),
  (["alphabetic", "alpha"], fun _ => alphabetic),
  (["math"], fun _ => (ofCategories ["Sm"]).union (property "othermath")),
  (["cased"], fun _ => unions [lowercase, uppercase, ofCategories ["Lt"]]),
  (["caseignorable", "ci"], fun _ =>
    (ofCategories ["Mn", "Me", "Cf", "Lm", "Sk"]).union (ofLines caseIgnorableMarks)),
  (["graphemeextend", "grext"], fun _ => graphemeExtend),
  (["graphemebase", "grbase"], fun _ =>
    ((ofCategories ["Cc", "Cf", "Co", "Cn", "Zl", "Zp"]).union graphemeExtend).compl),
  (["idstart", "ids"], fun _ => identifierStart),
  (["idcontinue", "idc"], fun _ => identifierContinue),
  (["xidstart", "xids"], fun _ => identifierStart.diff (ofLines unstableStarts)),
  (["xidcontinue", "xidc"], fun _ => identifierContinue.diff (ofLines unstableContinues)),
  (["defaultignorablecodepoint", "di"], fun _ => defaultIgnorable),
  (["changeswhenlowercased", "cwl"], fun _ => changesWhenLowercased),
  (["changeswhenuppercased", "cwu"], fun _ => changesWhenUppercased),
  (["changeswhentitlecased", "cwt"], fun _ => changesWhenTitlecased),
  (["changeswhencasefolded", "cwcf"], fun _ =>
    changesWhenLowercased.symmDiff (ofLines unlikeFolded)),
  (["changeswhencasemapped", "cwcm"], fun _ =>
    unions [changesWhenLowercased, changesWhenUppercased, changesWhenTitlecased])]

/-- The property of a name. -/
def property? (name : String) : Option CharSet :=
  ((listed? propertyRanges name).map ofLines) <|> ((listed? derivedProperties name).map (· ()))

/-! ## Digits, blanks and words -/

/-- Decimal digits. -/
def digits : CharSet := ofCategories ["Nd"]

/-- Blanks and line breaks. -/
def blanks : CharSet := property "whitespace"

/-- The characters of words: letters, marks, digits, connectors and joiners. -/
def wordCharacters : CharSet :=
  unions [alphabetic, ofCategories ["Mn", "Mc", "Me", "Nd", "Pc"], property "joincontrol"]

end TenantAuth.CharSet
