import DeclLinker.Path.Basic
import DeclLinker.Proofs.Source.Scan
import Mathlib.Data.Char
import Mathlib.Data.List.Lex

/-!
# The orders of texts and of paths

Texts are compared by code points and paths by their components, so both orders compare lists
member by member.  Both are total.  Two texts of which none comes after the other are equal; of
paths this holds when no component holds a slash, since a root counts as a first component.  Every
path that a text denotes is of this kind.
-/

namespace DeclLinker

section Lists

variable {α : Type} {lt : α → α → Bool}
  [IsStrictTotalOrder α fun first second => lt first second = true]

/-- Lists compared member by member are in a strict total order when their members are. -/
theorem isStrictTotalOrder_lex [BEq α] [LawfulBEq α] :
    IsStrictTotalOrder (List α) fun first second => List.lex first second lt = true := by
  have lex_eq : (fun first second => List.lex first second lt = true) =
      List.Lex fun first second => lt first second = true := by
    funext first second
    exact propext (List.lex_eq_true_iff_lex lt)
  rw [lex_eq]
  exact { isStrictWeakOrder_of_isOrderConnected with }

/-- Not coming after is a linear order when coming before is a strict total one. -/
theorem isLinearOrder_not_lt :
    IsLinearOrder α fun first second => (!lt second first) = true := by
  let order := linearOrderOfSTO fun first second => lt first second = true
  have le_eq : (fun first second => (!lt second first) = true) =
      fun first second => order.le first second := by
    funext first second
    rw [Bool.not_eq_true', ← Bool.not_eq_true]
    exact propext (@not_lt α order second first)
  rw [le_eq]
  infer_instance

end Lists

namespace Text

instance : IsStrictTotalOrder Char fun first second => decide (first < second) = true := by
  simp only [decide_eq_true_eq]
  infer_instance

instance : IsStrictTotalOrder Text fun first second => lt first second = true :=
  isStrictTotalOrder_lex

instance : IsLinearOrder Text fun first second => le first second = true :=
  isLinearOrder_not_lt

theorem le_total (first second : Text) : le first second = true ∨ le second first = true :=
  total_of (fun first second => le first second = true) first second

theorem le_refl (text : Text) : le text text = true :=
  (le_total text text).elim id id

theorem le_trans {first second third : Text} (one : le first second = true)
    (two : le second third = true) : le first third = true :=
  trans_of (fun first second => le first second = true) one two

theorem le_antisymm {first second : Text} (one : le first second = true)
    (two : le second first = true) : first = second :=
  antisymm_of (fun first second => le first second = true) one two

theorem separator_not_mem_of_mem_splitOn {separator : Char} {text piece : Text}
    (member : piece ∈ splitOn separator text) : separator ∉ piece := by
  induction text generalizing piece with
  | nil =>
      rw [splitOn, List.mem_singleton] at member
      simp [member]
  | cons char rest ih =>
      by_cases same : char = separator
      · rw [splitOn, if_pos same] at member
        rcases List.mem_cons.mp member with rfl | later
        · simp
        · exact ih later
      · obtain ⟨first, pieces, split_eq⟩ :=
          List.exists_cons_of_ne_nil (splitOn_ne_nil separator rest)
        rw [split_eq] at ih
        simp only [splitOn, if_neg same, split_eq] at member
        rcases List.mem_cons.mp member with rfl | later
        · rw [List.mem_cons, not_or]
          exact ⟨Ne.symm same, ih List.mem_cons_self⟩
        · exact ih (.tail first later)

end Text

namespace Path

/-- A path none of whose components holds a slash. -/
def Proper (path : Path) : Prop :=
  ∀ part ∈ path.parts, '/' ∉ part

theorem proper_ofText (text : Text) : (ofText text).Proper := by
  intro part member
  exact Text.separator_not_mem_of_mem_splitOn (List.mem_filter.mp member).1

/-- The path of some components, of which the first may be a root. -/
def ofComponents : List Text → Path
  | ['/'] :: parts => ⟨.slash, parts⟩
  | ['/', '/'] :: parts => ⟨.doubleSlash, parts⟩
  | parts => ⟨.relative, parts⟩

theorem Proper.ofComponents_components {path : Path} (proper : path.Proper) :
    ofComponents path.components = path := by
  rcases path with ⟨root, parts⟩
  cases root with
  | slash => rfl
  | doubleSlash => rfl
  | relative =>
      -- A first component that reads as a root would hold a slash.
      change ofComponents parts = ⟨.relative, parts⟩
      unfold ofComponents
      split
      · exact absurd (List.mem_singleton_self '/') (proper ['/'] List.mem_cons_self)
      · exact absurd List.mem_cons_self (proper ['/', '/'] List.mem_cons_self)
      · rfl

/-- Whether some components do not come after others. -/
def componentsLe (first second : List Text) : Bool :=
  !List.lex second first Text.lt

instance : IsLinearOrder (List Text) fun first second => componentsLe first second = true :=
  have : IsStrictTotalOrder (List Text) fun first second =>
      List.lex first second Text.lt = true := isStrictTotalOrder_lex
  isLinearOrder_not_lt

theorem le_total (first second : Path) : first.le second = true ∨ second.le first = true :=
  total_of (fun first second => componentsLe first second = true) first.components
    second.components

theorem le_refl (path : Path) : path.le path = true :=
  (le_total path path).elim id id

theorem le_trans {first second third : Path} (one : first.le second = true)
    (two : second.le third = true) : first.le third = true :=
  trans_of (fun first second => componentsLe first second = true) one two

/-- Of two different proper paths one comes after the other. -/
theorem Proper.le_antisymm {first second : Path} (firstProper : first.Proper)
    (secondProper : second.Proper) (one : first.le second = true)
    (two : second.le first = true) : first = second := by
  have same : first.components = second.components :=
    antisymm_of (fun first second => componentsLe first second = true) one two
  rw [← firstProper.ofComponents_components, same, secondProper.ofComponents_components]

end Path

end DeclLinker
