import DataQuality.Unicode.Category
import DataQuality.Unicode.Script
import DataQuality.Unicode.Segment
import DataQuality.Unicode.Property
import DataQuality.Unicode.Tables.Names

/-!
# Looking up sets by name

Patterns name sets of characters by a property (`Alphabetic`), a general category (`L`,
`Letter`), a script (`Greek`), or a property and a value (`sc=Greek`, `Age:6.0`).  Names are
compared loosely: spaces, underscores and hyphens do not count, nor does the case of ASCII
letters or a leading `is`, so `isGreek`, `greek` and `GREEK` all name the Greek script.

A single name is tried as a binary property, then as a general category, then as a script; the
short names `cf`, `sc` and `lc` are taken as categories even though properties bear them too.  A
name that is none of these is refused as an unknown property.  A property and a value are
understood for the general category, scripts, script extensions, ages and the three break
properties; a known property with an unknown value, or with values that patterns cannot name, is
refused as an unknown value.
-/

namespace DataQuality.Unicode

/-- Why a name gives no set. -/
inductive LookupError where
  /-- The property is unknown, or not one that patterns can use. -/
  | propertyNotFound
  /-- The property is known, but not the value, or not for patterns. -/
  | valueNotFound
  deriving Repr, BEq, Inhabited

/-- Whether a text starts with the letters `is` in any case. -/
def startsWithIs (cs : List Char) : Bool :=
  match cs with
  | a :: b :: _ => (a = 'i' ∨ a = 'I') ∧ (b = 's' ∨ b = 'S')
  | _ => false

/-- The loose form of a name: spaces, underscores, hyphens and characters beyond ASCII dropped,
ASCII letters lowered, and a leading `is` removed, except that `isc` stays whole. -/
def looseName (s : String) : String :=
  let cs := s.toList
  let strip := startsWithIs cs
  let body := (if strip then cs.drop 2 else cs).filter fun c =>
    c ≠ ' ' ∧ c ≠ '_' ∧ c ≠ '-' ∧ c.toNat < 128
  let body := body.map Char.toLower
  if strip ∧ body = ['c'] then "isc" else String.ofList body

/-- The long name that an alias list gives a loose name. -/
def longName (aliases : List (String × String)) (loose : String) : Option String :=
  (aliases.find? fun p => looseName p.1 == loose).map (·.2)

/-- The long name of a general category or group of categories, including the three extra names
`Any`, `Assigned` and `ASCII`. -/
def categoryLongName (loose : String) : Option String :=
  if loose = "any" then some "Any"
  else if loose = "assigned" then some "Assigned"
  else if loose = "ascii" then some "ASCII"
  else longName Tables.categoryAliases loose

/-- The categories of each group, by the group's long name. -/
def categoryGroups : List (String × List Category) :=
  [("Other", [.control, .format, .unassigned, .privateUse, .surrogate]),
    ("Letter", [.uppercaseLetter, .lowercaseLetter, .titlecaseLetter, .modifierLetter,
      .otherLetter]),
    ("Cased_Letter", [.uppercaseLetter, .lowercaseLetter, .titlecaseLetter]),
    ("Mark", [.nonspacingMark, .spacingMark, .enclosingMark]),
    ("Number", [.decimalNumber, .letterNumber, .otherNumber]),
    ("Punctuation", [.connectorPunctuation, .dashPunctuation, .openPunctuation,
      .closePunctuation, .initialPunctuation, .finalPunctuation, .otherPunctuation]),
    ("Symbol", [.mathSymbol, .currencySymbol, .modifierSymbol, .otherSymbol]),
    ("Separator", [.spaceSeparator, .lineSeparator, .paragraphSeparator])]

/-- The set of a general category, group or extra name, given by its long name. -/
def categoryNamed (name : String) : Except LookupError CodeSet :=
  if name = "Any" then .ok CodeSet.scalars
  else if name = "Assigned" then .ok (categorySet [.unassigned]).complement
  else if name = "ASCII" then .ok (CodeSet.range 0 0x7F)
  else match categoryGroups.lookup name with
    | some ks => .ok (categorySet ks)
    | none =>
      match Category.all.find? (·.name == name) with
      | some k => .ok (categorySet [k])
      | none => .error .valueNotFound

/-- The set of a script given by its long name; a script without code points is not known. -/
def scriptNamed (extensions : Bool) (name : String) : Except LookupError CodeSet :=
  match scriptIndex name with
  | none => .error .valueNotFound
  | some i =>
    let s := if extensions then scriptExtensionSet i else scriptSet i
    if s.isEmpty then .error .valueNotFound else .ok s

/-- The set that a single name gives: a binary property, a general category or a script. -/
def setOfName (name : String) : Except LookupError CodeSet :=
  let loose := looseName name
  let property :=
    if loose = "cf" ∨ loose = "sc" ∨ loose = "lc" then none
    else longName Tables.propertyAliases loose
  match property with
  | some long =>
    match binaryPropertySet long with
    | some s => .ok s
    | none => .error .propertyNotFound
  | none =>
    match categoryLongName loose with
    | some long => categoryNamed long
    | none =>
      match longName Tables.scriptAliases loose with
      | some long => scriptNamed false long
      | none => .error .propertyNotFound

/-- The set of the code points with a value of a break property, the value given loosely. -/
def breakValueSet (aliases : List (String × String)) (names : List String) (m : CodeMap)
    (loose : String) : Except LookupError CodeSet :=
  match (longName aliases loose).bind (valueSet names m) with
  | some s => if s.isEmpty then .error .valueNotFound else .ok s
  | none => .error .valueNotFound

/-- The set that a property and a value give. -/
def setOfValue (property value : String) : Except LookupError CodeSet :=
  let v := looseName value
  match longName Tables.propertyAliases (looseName property) with
  | none => .error .propertyNotFound
  | some "General_Category" =>
    match categoryLongName v with
    | some long => categoryNamed long
    | none => .error .valueNotFound
  | some "Script" =>
    match longName Tables.scriptAliases v with
    | some long => scriptNamed false long
    | none => .error .valueNotFound
  | some "Script_Extensions" =>
    match longName Tables.scriptAliases v with
    | some long => scriptNamed true long
    | none => .error .valueNotFound
  | some "Age" =>
    match (longName Tables.ageAliases v).bind ageSet with
    | some s => .ok s
    | none => .error .valueNotFound
  | some "Grapheme_Cluster_Break" =>
    breakValueSet Tables.graphemeClusterBreakAliases Tables.graphemeClusterBreakNames
      graphemeClusterBreakMap v
  | some "Word_Break" =>
    breakValueSet Tables.wordBreakAliases Tables.wordBreakNames wordBreakMap v
  | some "Sentence_Break" =>
    breakValueSet Tables.sentenceBreakAliases Tables.sentenceBreakNames sentenceBreakMap v
  | some _ => .error .valueNotFound

end DataQuality.Unicode
