import Guardrail.Text.Property.Assigned
import Guardrail.Text.Property.Case

/-!
# Characters that change with case

The characters that a mapping of case changes, and the classes of characters that differ in case
only, as of Unicode 16.
-/

namespace Guardrail.Text

/-- The pairs of a mapping that Unicode 16 had. -/
def CaseRuns.pairs16 (runs : CaseRuns) : List (Nat × Nat) :=
  runs.pairs.filter fun p => !addedIn17Set.has p.1

/-- The set of listed code points. -/
def CharSet.ofPoints (points : List Nat) : CharSet :=
  points.foldl (fun set n => set.insertRange n n) []

/-- Characters with the property `Changes_When_Lowercased`: those of the mapping, and the one that
is taken to two. -/
def changesLoweredSet : CharSet :=
  (CharSet.ofPoints (lowercaseRuns.pairs16.map (·.1))).insertRange 0x130 0x130

/-- Characters that have an upper-case form of which they are not the lower-case form. -/
def raisedOnlySet : CharSet := [
  (0xB5, 0xB5), (0x131, 0x131), (0x149, 0x149), (0x17F, 0x17F), (0x1C5, 0x1C5), (0x1C8, 0x1C8),
  (0x1CB, 0x1CB), (0x1F0, 0x1F0), (0x1F2, 0x1F2), (0x345, 0x345), (0x390, 0x390), (0x3B0, 0x3B0),
  (0x3C2, 0x3C2), (0x3D0, 0x3D1), (0x3D5, 0x3D6), (0x3F0, 0x3F1), (0x3F5, 0x3F5), (0x587, 0x587),
  (0x1C80, 0x1C88), (0x1E96, 0x1E9B), (0x1F50, 0x1F50), (0x1F52, 0x1F52), (0x1F54, 0x1F54),
  (0x1F56, 0x1F56), (0x1F88, 0x1F8F), (0x1F98, 0x1F9F), (0x1FA8, 0x1FAF), (0x1FB2, 0x1FB2),
  (0x1FB4, 0x1FB4), (0x1FB6, 0x1FB7), (0x1FBC, 0x1FBC), (0x1FBE, 0x1FBE), (0x1FC2, 0x1FC2),
  (0x1FC4, 0x1FC4), (0x1FC6, 0x1FC7), (0x1FCC, 0x1FCC), (0x1FD2, 0x1FD3), (0x1FD6, 0x1FD7),
  (0x1FE2, 0x1FE4), (0x1FE6, 0x1FE7), (0x1FF2, 0x1FF2), (0x1FF4, 0x1FF4), (0x1FF6, 0x1FF7),
  (0x1FFC, 0x1FFC), (0xFB00, 0xFB06), (0xFB13, 0xFB17)]

/-- Characters with the property `Changes_When_Uppercased`. -/
def changesRaisedSet : CharSet :=
  (CharSet.ofPoints (lowercaseRuns.pairs16.map (·.2))).union raisedOnlySet

/-- Upper-case characters that have a title-case form of their own. -/
def titledOnlySet : CharSet := [(0x1C4, 0x1C4), (0x1C7, 0x1C7), (0x1CA, 0x1CA), (0x1F1, 0x1F1)]

/-- Characters that upper case changes and title case does not. -/
def raisedNotTitledSet : CharSet := [
  (0x1C5, 0x1C5), (0x1C8, 0x1C8), (0x1CB, 0x1CB), (0x1F2, 0x1F2), (0x10D0, 0x10FA),
  (0x10FD, 0x10FF), (0x1F88, 0x1F8F), (0x1F98, 0x1F9F), (0x1FA8, 0x1FAF), (0x1FBC, 0x1FBC),
  (0x1FCC, 0x1FCC), (0x1FFC, 0x1FFC)]

/-- Characters with the property `Changes_When_Titlecased`. -/
def changesTitledSet : CharSet := (changesRaisedSet.union titledOnlySet).diff raisedNotTitledSet

/-- Characters that case folding changes and lower case does not. -/
def foldedOnlySet : CharSet := [
  (0xB5, 0xB5), (0xDF, 0xDF), (0x149, 0x149), (0x17F, 0x17F), (0x345, 0x345), (0x3C2, 0x3C2),
  (0x3D0, 0x3D1), (0x3D5, 0x3D6), (0x3F0, 0x3F1), (0x3F5, 0x3F5), (0x587, 0x587), (0x13F8, 0x13FD),
  (0x1C80, 0x1C88), (0x1E9A, 0x1E9B), (0x1F80, 0x1F87), (0x1F90, 0x1F97), (0x1FA0, 0x1FA7),
  (0x1FB2, 0x1FB4), (0x1FB7, 0x1FB7), (0x1FC2, 0x1FC4), (0x1FC7, 0x1FC7), (0x1FF2, 0x1FF4),
  (0x1FF7, 0x1FF7), (0xAB70, 0xABBF), (0xFB00, 0xFB06), (0xFB13, 0xFB17)]

/-- Characters that lower case changes and case folding does not. -/
def loweredNotFoldedSet : CharSet := [(0x13A0, 0x13F5)]

/-- Characters with the property `Changes_When_Casefolded`. -/
def changesFoldedSet : CharSet := (changesLoweredSet.union foldedOnlySet).diff loweredNotFoldedSet

/-- Characters with the property `Changes_When_Casemapped`. -/
def changesMappedSet : CharSet := .unions [changesLoweredSet, changesRaisedSet, changesTitledSet]

/-! ## Variants -/

/-- The pairs of case folding. -/
def foldPairs : List (Nat × Nat) := foldRuns.pairs16

/-- A set with all characters that differ from one of its own in case only: two characters differ in
case only if case folding takes them to the same character. -/
def CharSet.caseClosure (set : CharSet) : CharSet :=
  let targets := foldPairs.foldl (fun (found : CharSet) (lower, folded) =>
    if set.has lower || set.has folded then found.insertRange folded folded else found) []
  foldPairs.foldl (fun (found : CharSet) (lower, folded) =>
    if targets.has folded then (found.insertRange lower lower).insertRange folded folded
    else found) set

/-- A set of ranges, all moved up. -/
def CharSet.raise (set : CharSet) (n : Nat) : CharSet := set.map fun r => (r.1 + n, r.2 + n)

/-- A set of ranges, all moved down. -/
def CharSet.lower (set : CharSet) (n : Nat) : CharSet := set.map fun r => (r.1 - n, r.2 - n)

/-- A set with all characters that differ from an ASCII letter of its own in case only. -/
def CharSet.asciiCaseClosure (set : CharSet) : CharSet :=
  .unions [set, (set.inter [(0x41, 0x5A)]).raise 32, (set.inter [(0x61, 0x7A)]).lower 32]

end Guardrail.Text
