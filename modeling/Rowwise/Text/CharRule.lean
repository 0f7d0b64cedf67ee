import Rowwise.Text.Category
import Rowwise.Text.CharSet
import Rowwise.Text.ScriptTable

/-!
# Rules for sets of characters

The standard defines most of its sets from categories, scripts and lists of characters.  A rule
writes such a definition down, and `CharRule.toSet` works it out.
-/

namespace Rowwise.Text

/-- The definition of a set of characters. -/
inductive CharRule where
  | categories (ks : List Category)
  | codes (ranges : List CodeRange)
  | runs (rs : List CodeRun)
  /-- The characters of a script. -/
  | script (name : String)
  /-- The characters that a case map changes. -/
  | changedBy (long : List (Nat × List Nat)) (short : List CaseRun)
  | union (a b : CharRule)
  | intersection (a b : CharRule)
  | difference (a b : CharRule)

instance : Union CharRule := ⟨.union⟩
instance : Inter CharRule := ⟨.intersection⟩
instance : Sub CharRule := ⟨.difference⟩

/-- The code points of a category. -/
def Category.codeRanges (k : Category) : List CodeRange :=
  match k with
  | unassigned => (CharSet.ofRanges (assigned.flatMap fun k =>
      k.runs.flatMap CodeRun.ranges)).complement.ranges
  | k => k.runs.flatMap CodeRun.ranges

/-- The characters of some categories.  Ranges that begin or end at a surrogate are left out. -/
def CharSet.ofCategories (ks : List Category) : CharSet :=
  let s := CharSet.ofRanges (ks.flatMap Category.codeRanges)
  ⟨s.ranges.filter fun r => !(isSurrogate r.1 || isSurrogate r.2)⟩

/-- The script with a name. -/
def script? (name : String) : Option Script := scripts.find? (·.names.contains name)

/-- The set that a rule defines. -/
def CharRule.toSet : CharRule → CharSet
  | categories ks => .ofCategories ks
  | codes ranges => .ofRanges ranges
  | runs rs => .ofRanges (rs.flatMap CodeRun.ranges)
  | script name => ((script? name).map fun s => .ofRanges s.ranges).getD .empty
  | changedBy long short =>
    .ofRanges (long.map (fun (n, _) => (n, n)) ++
      short.flatMap fun r => (CodeRun.mk r.first r.last r.step).ranges)
  | union a b => a.toSet.union b.toSet
  | intersection a b => a.toSet.intersection b.toSet
  | difference a b => a.toSet.difference b.toSet

end Rowwise.Text
