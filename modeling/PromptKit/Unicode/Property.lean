import PromptKit.Unicode.Age
import PromptKit.Unicode.Segment

/-!
Properties by name.

Names are compared in lower case, without blanks, hyphens, underscores and a leading `is`.
-/

namespace PromptKit.Unicode

/-- A name as it is compared. Of `isc` the first two letters belong to the name. -/
def looseName (name : List Char) : String :=
  let (isCut, cs) := match name.map Char.toLower with
    | 'i' :: 's' :: r => (true, r)
    | r => (false, r)
  let cs := cs.filter fun c => c.toNat < 0x80 && c != ' ' && c != '-' && c != '_'
  if isCut && cs == ['c'] then "isc" else String.ofList cs

/-- A property that a character has or has not. -/
def property? (name : String) : Option Ranges :=
  ((listedProperties ++ derivedProperties).find? (·.1.contains name)).map (·.2)

/-- The names of properties that take values, none of which stands for a set by itself. -/
def valuedProperties : List String :=
  ["age", "bc", "bidiclass", "blk", "block", "bmg", "bidimirroringglyph", "bpb",
    "bidipairedbracket", "bpt", "bidipairedbrackettype", "canonicalcombiningclass", "ccc",
    "casefolding", "category", "cjkaccountingnumeric", "cjkothernumeric", "cjkprimarynumeric",
    "decompositionmapping", "decompositiontype", "dm", "dt", "ea", "eastasianwidth", "equideo",
    "equivalentunifiedideograph", "fcnfkc", "fcnfkcclosure", "gc", "gcb", "generalcategory",
    "graphemeclusterbreak", "hangulsyllabletype", "hst", "incb", "indicconjunctbreak",
    "indicpositionalcategory", "indicsyllabiccategory", "inpc", "insc", "isc", "isocomment",
    "jamoshortname", "jg", "joininggroup", "joiningtype", "jsn", "jt", "lb", "linebreak",
    "lowercasemapping", "na", "na1", "name", "namealias", "nfcqc", "nfcquickcheck", "nfdqc",
    "nfdquickcheck", "nfkccasefold", "nfkccf", "nfkcqc", "nfkcquickcheck", "nfkcscf",
    "nfkcsimplecasefold", "nfkdqc", "nfkdquickcheck", "nt", "numerictype", "numericvalue", "nv",
    "sb", "scf", "script", "scriptextensions", "scx", "sentencebreak", "sfc",
    "simplecasefolding", "simplelowercasemapping", "simpletitlecasemapping",
    "simpleuppercasemapping", "slc", "stc", "suc", "tc", "titlecasemapping", "uc",
    "unicode1name", "uppercasemapping", "verticalorientation", "vo", "wb", "wordbreak"]

/-- The set of a name that stands alone: a property, a general category or a script. -/
def setNamed? (name : String) : Option Ranges :=
  if valuedProperties.contains name then none
  else property? name <|> category? name <|> script? name

def ofClasses? (classes : List (List String × Ranges)) (name : String) : Option Ranges :=
  (classes.find? (·.1.contains name)).map (·.2)

/-- The code points for which a property has a value. -/
def setValued? (name value : String) : Option Ranges :=
  if ["gc", "generalcategory", "category"].contains name then category? value
  else if ["sc", "script"].contains name then script? value
  else if ["scx", "scriptextensions"].contains name then scriptExtension? value
  else if name = "age" then age? value
  else if ["gcb", "graphemeclusterbreak"].contains name then ofClasses? graphemeClasses value
  else if ["wb", "wordbreak"].contains name then ofClasses? wordClasses value
  else if ["sb", "sentencebreak"].contains name then ofClasses? sentenceClasses value
  else none

end PromptKit.Unicode
