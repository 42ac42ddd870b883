import DeclLinker.Proofs.Source.Exports
import DeclLinker.Proofs.Text.Order
import DeclLinker.Source.Analysis

/-!
# Analyses of texts

An analysis is a plain record, so a list of them may hold anything.  Those made of a text at an
address have words for exports, spelled references for placeholders and a proper path; this is what
the index and the resolution of references rely on.
-/

namespace DeclLinker.Analysis

open Text

/-- An analysis that is made of some text at some address. -/
def Produced (analysis : Analysis) : Prop :=
  ∃ families address tier text, analysis = ofText families (Path.ofText address) tier text

namespace Produced

variable {analysis : Analysis}

theorem word (produced : analysis.Produced) {name : Text} (exported : name ∈ analysis.exports) :
    ∀ char ∈ name, isWord char = true := by
  rcases produced with ⟨families, address, tier, text, rfl⟩
  exact (Scan.word_of_mem_exports (List.mem_eraseDups.mp exported)).2

theorem dot_not_mem (produced : analysis.Produced) {name : Text}
    (exported : name ∈ analysis.exports) : '.' ∉ name := by
  intro member
  exact absurd (produced.word exported '.' member) (by decide)

theorem proper (produced : analysis.Produced) : analysis.path.Proper := by
  rcases produced with ⟨families, address, tier, text, rfl⟩
  exact Path.proper_ofText address

theorem spelled (produced : analysis.Produced) {placeholder : Placeholder}
    (member : placeholder ∈ analysis.placeholders) : placeholder.toReference.Spelled := by
  rcases produced with ⟨families, address, tier, text, rfl⟩
  exact Scan.spelled_of_mem_placeholders member

end Produced

end DeclLinker.Analysis
