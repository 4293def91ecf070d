import DataQuality.Unicode.CodeSet
import DataQuality.Unicode.Tables.Script
import DataQuality.Unicode.Tables.Names

/-!
# Scripts

The script of a code point is the writing system it belongs to; characters shared by several
scripts belong to `Common` or `Inherited`.  The script extensions of a code point are the scripts
it is used with, which for most code points is its script alone.  Scripts are identified by their
position in the sorted list of long names.
-/

namespace DataQuality.Unicode

/-- The script table, decoded. -/
def scriptMap : CodeMap :=
  CodeMap.ofTable Tables.script

/-- The script extension sets that differ from the script sets, by script position. -/
def scriptExtensionTable : Array (Nat × Array (Nat × Nat)) :=
  familyFrom (tableNumbers Tables.scriptExtensions) 0 #[]

/-- The position of a script given by its long name. -/
def scriptIndex (name : String) : Option Nat :=
  Tables.scriptNames.idxOf? name

/-- The code points of a script. -/
def scriptSet (i : Nat) : CodeSet :=
  scriptMap.select (· == i)

/-- The code points whose script extensions include a script. -/
def scriptExtensionSet (i : Nat) : CodeSet :=
  match scriptExtensionTable.find? (·.1 == i) with
  | some (_, ranges) => ⟨ranges⟩
  | none => scriptSet i

end DataQuality.Unicode
