import DeclLinker.Proofs.Import.Reach
import DeclLinker.Proofs.Text.Order
import Mathlib.Data.List.Induction

/-!
# Specifiers lead to their producers

The way from one place to another goes up to where they part and then down, so walking it from the
first place ends at the second.  A specifier writes this way and, behind it, the name of the
producer without its suffix.  With the suffix put back it is read as the way and the whole name;
taken from the directory of the consumer it denotes the producer, and no other file.
-/

namespace DeclLinker.Path

open Text

/-! ## Walking -/

/-- As many steps up as there are components undo them. -/
theorem foldl_step_up (front back : Location) :
    (List.replicate back.length up).foldl step (front ++ back) = front := by
  induction back using List.reverseRecOn with
  | nil => simp
  | append_singleton back last ih =>
      have back_up : step (front ++ (back ++ [last])) up = front ++ back := by
        rw [step, if_pos rfl, ← List.append_assoc, List.dropLast_concat]
      rw [List.length_append, List.length_singleton, List.replicate_succ, List.foldl_cons, back_up]
      exact ih

/-- Components that are no double dots lead down. -/
theorem foldl_step_down (place : Location) {parts : List Text} (upless : up ∉ parts) :
    parts.foldl step place = place ++ parts := by
  induction parts generalizing place with
  | nil => simp
  | cons part parts ih =>
      rw [List.mem_cons, not_or] at upless
      rw [List.foldl_cons, step, if_neg (Ne.symm upless.1), ih _ upless.2, List.append_assoc,
        List.singleton_append]

/-- The way from one place to another leads there. -/
theorem foldl_step_route (front start target : Location) (upless : up ∉ target) :
    (route start target).foldl step (front ++ start) = front ++ target := by
  -- What both places share is passed over and stands in front of the walk from then on.
  induction start, target using route.induct generalizing front with
  | case1 start first target ih =>
      rw [List.mem_cons, not_or] at upless
      have later := ih (front ++ [first]) upless.2
      rw [route, if_pos rfl]
      simpa using later
  | case2 first start second target apart =>
      have climbed := foldl_step_up front (first :: start)
      rw [List.length_cons] at climbed
      rw [route, if_neg apart, List.foldl_append, climbed, foldl_step_down _ upless]
  | case3 start target parted =>
      have route_eq : route start target = List.replicate start.length up ++ target := by
        rw [route]
        exact parted
      rw [route_eq, List.foldl_append, foldl_step_up, foldl_step_down _ upless]

/-- A way consists of steps up and of components of its target. -/
theorem eq_up_or_mem_of_mem_route {start target : Location} {part : Text}
    (member : part ∈ route start target) : part = up ∨ part ∈ target := by
  induction start, target using route.induct with
  | case1 start first target ih =>
      rw [route, if_pos rfl] at member
      exact (ih member).imp_right (.tail first)
  | case2 first start second target apart =>
      rw [route, if_neg apart] at member
      exact (List.mem_append.mp member).imp_left List.eq_of_mem_replicate
  | case3 start target parted =>
      rw [route] at member
      · exact (List.mem_append.mp member).imp_left List.eq_of_mem_replicate
      · exact parted

/-! ## Paths that are read as they stand -/

/-- An absolute path, written with one leading slash and without double dots. -/
structure Direct (path : Path) : Prop where
  written : ∃ address, path = ofText address
  root_eq : path.root = .slash
  upless : up ∉ path.parts

/-- A direct path whose name is a stem and the suffix; the stem is neither empty nor a dot. -/
structure Importable (suffix : Text) (path : Path) : Prop extends Direct path where
  stemmed : ∃ stem, path.name = stem ++ suffix ∧ stem ≠ [] ∧ stem ≠ ['.']

/-- An absolute path with every double dot taken at its word. -/
def normalised (path : Path) : Path :=
  ⟨path.root, path.parts.foldl step []⟩

/-- What the text of a path is made of: components without slashes. -/
def Component (part : Text) : Prop :=
  '/' ∉ part ∧ isPart part = true

namespace Direct

variable {path : Path} (direct : path.Direct)

include direct

theorem component {part : Text} (member : part ∈ path.parts) : Component part := by
  rcases direct.written with ⟨address, rfl⟩
  constructor
  · exact proper_ofText address part member
  · exact (List.mem_filter.mp member).2

theorem upless_parent : up ∉ path.parent.parts :=
  fun member => direct.upless (List.dropLast_subset path.parts member)

theorem locate_parent (here : Location) : path.parent.locate here = path.parent.parts := by
  have absolute : path.parent.isAbsolute = true := by
    simp [isAbsolute, parent, direct.root_eq]
  rw [locate, absolute, if_pos rfl, foldl_step_down _ direct.upless_parent, List.nil_append]

end Direct

/-- A path with a name consists of its parent and the name. -/
theorem parts_eq_of_name_ne {path : Path} (name_ne : path.name ≠ []) :
    path.parts = path.parent.parts ++ [path.name] := by
  rcases path with ⟨root, parts⟩
  cases parts using List.reverseRecOn with
  | nil => exact absurd rfl name_ne
  | append_singleton parts last => simp [parent, name]

/-! ## Reading a specifier back -/

theorem component_up : Component up := by
  constructor
  · decide
  · decide

/-- Components joined by slashes are read back, also behind a dot segment. -/
theorem filter_splitOn_intercalate {parts : List Text} (parts_ne : parts ≠ [])
    (components : ∀ part ∈ parts, Component part) :
    (splitOn '/' (['/'].intercalate parts)).filter isPart = parts := by
  rw [splitOn_intercalate parts_ne fun part member => (components part member).1]
  exact List.filter_eq_self.mpr fun part member => (components part member).2

theorem ofText_dot_slash {parts : List Text} (parts_ne : parts ≠ [])
    (components : ∀ part ∈ parts, Component part) :
    ofText ('.' :: '/' :: ['/'].intercalate parts) = ⟨.relative, parts⟩ := by
  have noSlash : '/' ∉ ['.'] := by decide
  have split_eq : splitOn '/' ('.' :: '/' :: ['/'].intercalate parts) =
      ['.'] :: splitOn '/' (['/'].intercalate parts) :=
    splitOn_append_cons noSlash _
  rw [ofText, split_eq, List.filter_cons_of_neg (by decide),
    filter_splitOn_intercalate parts_ne components]
  rfl

theorem ofText_up_slash {parts : List Text} (parts_ne : parts ≠ [])
    (components : ∀ part ∈ parts, Component part)
    (starts : ['.', '.', '/'] <+: ['/'].intercalate parts) :
    ofText (['/'].intercalate parts) = ⟨.relative, parts⟩ := by
  rw [ofText, filter_splitOn_intercalate parts_ne components]
  rcases starts with ⟨rest, text_eq⟩
  rw [← text_eq]
  rfl

/-- What is put behind joined texts is put behind the last of them. -/
theorem intercalate_concat_append (separator : Text) (front : List Text) (last ending : Text) :
    separator.intercalate (front ++ [last]) ++ ending =
      separator.intercalate (front ++ [last ++ ending]) := by
  induction front with
  | nil => simp
  | cons first front ih =>
      cases front with
      | nil => simp [List.intercalate_cons_cons]
      | cons next front =>
          simp only [List.cons_append, List.intercalate_cons_cons, List.append_assoc] at ih ⊢
          rw [ih]

theorem dropEnding_append (stem : Text) {ending : Text} (ending_ne : ending ≠ []) :
    (stem ++ ending).dropEnding ending = stem := by
  have ends : ending.isSuffixOf (stem ++ ending) = true :=
    List.isSuffixOf_iff_suffix.mpr (List.suffix_append stem ending)
  simp [dropEnding, ends, ending_ne]

section Importable

variable {suffix : Text} {consumer producer : Path}

/-- The way from the directory of a consumer to the one of a producer. -/
def way (consumer producer : Path) : List Text :=
  route consumer.parent.parts producer.parent.parts

theorem Importable.name_ne (suffix_ne : suffix ≠ []) (importable : Importable suffix producer) :
    producer.name ≠ [] := by
  rcases importable.stemmed with ⟨stem, name_eq, -, -⟩
  simp [name_eq, suffix_ne]

theorem Importable.component_name (suffix_ne : suffix ≠ [])
    (importable : Importable suffix producer) : Component producer.name := by
  apply importable.component
  rw [parts_eq_of_name_ne (importable.name_ne suffix_ne)]
  simp

theorem Importable.exists_stem (suffix_ne : suffix ≠ [])
    (importable : Importable suffix producer) :
    ∃ stem, producer.name = stem ++ suffix ∧ Component stem := by
  have component := importable.component_name suffix_ne
  rcases importable.stemmed with ⟨stem, name_eq, stem_ne, stem_ne_dot⟩
  refine ⟨stem, name_eq, ?_, ?_⟩
  · intro slash
    apply component.1
    rw [name_eq]
    exact List.mem_append_left suffix slash
  · simp [isPart, stem_ne, stem_ne_dot]

theorem Importable.component_way (consumer : Path) (suffix_ne : suffix ≠ [])
    (importable : Importable suffix producer) :
    ∀ part ∈ way consumer producer ++ [producer.name], Component part := by
  intro part member
  rcases List.mem_append.mp member with onWay | last
  · rcases eq_up_or_mem_of_mem_route onWay with rfl | inParent
    · exact component_up
    · exact importable.component (List.dropLast_subset producer.parts inParent)
  · rw [List.mem_singleton.mp last]
    exact importable.component_name suffix_ne

/-- A specifier is the way to the producer and the stem of its name, behind a dot segment unless it
starts with a step up. -/
theorem specifier_cases (here : Location) {stem : Text} (consumerDirect : consumer.Direct)
    (producerDirect : producer.Direct) (suffix_ne : suffix ≠ [])
    (name_eq : producer.name = stem ++ suffix) (component : Component stem) :
    let text := ['/'].intercalate (way consumer producer ++ [stem])
    (['.', '.', '/'] <+: text ∧ specifier here consumer producer suffix = text) ∨
      specifier here consumer producer suffix = '.' :: '/' :: text := by
  intro text
  have path_eq : (Path.mk .relative (way consumer producer)).child
      (producer.name.dropEnding suffix) = ⟨.relative, way consumer producer ++ [stem]⟩ := by
    rw [name_eq, dropEnding_append stem suffix_ne, child_parts component.1,
      List.filter_cons_of_pos component.2, List.filter_nil]
  have text_eq : (Path.mk .relative (way consumer producer ++ [stem])).toText = text := by
    unfold toText
    split
    · rename_i empty
      simp at empty
    · rfl
  unfold specifier
  dsimp only
  rw [consumerDirect.locate_parent, producerDirect.locate_parent, ← way, path_eq, text_eq]
  split
  · rename_i starts
    exact .inl ⟨List.isPrefixOf_iff_prefix.mp starts, rfl⟩
  · exact .inr rfl

/-- A specifier starts with a dot segment, and with the suffix put back it is read as the way to the
producer and its whole name. -/
theorem Importable.read_specifier (here : Location) (consumerDirect : consumer.Direct)
    (suffix_ne : suffix ≠ []) (importable : Importable suffix producer) :
    (['.', '/'] <+: specifier here consumer producer suffix ∨
        ['.', '.', '/'] <+: specifier here consumer producer suffix) ∧
      ofText (specifier here consumer producer suffix ++ suffix) =
        ⟨.relative, way consumer producer ++ [producer.name]⟩ := by
  rcases importable.exists_stem suffix_ne with ⟨stem, name_eq, stemComponent⟩
  have components := importable.component_way consumer suffix_ne
  have notEmpty : way consumer producer ++ [producer.name] ≠ [] := by simp
  -- Only the last segment is short of the suffix, so putting it back completes the name.
  have completed := intercalate_concat_append ['/'] (way consumer producer) stem suffix
  rw [← name_eq] at completed
  rcases specifier_cases here consumerDirect importable.toDirect suffix_ne name_eq
    stemComponent with ⟨starts, specifier_eq⟩ | specifier_eq
  · rw [specifier_eq, completed]
    constructor
    · exact .inr starts
    · apply ofText_up_slash notEmpty components
      rw [← completed]
      exact starts.trans (List.prefix_append _ suffix)
  · rw [specifier_eq, List.cons_append, List.cons_append, completed]
    constructor
    · exact .inl ⟨_, rfl⟩
    · exact ofText_dot_slash notEmpty components

/-- Walking from the directory of a consumer leads to the producer. -/
theorem Importable.foldl_step_way (consumerDirect : consumer.Direct) (suffix_ne : suffix ≠ [])
    (importable : Importable suffix producer) :
    (consumer.parent.parts ++ (way consumer producer ++ [producer.name])).foldl step [] =
      producer.parts := by
  have parts_eq := parts_eq_of_name_ne (importable.name_ne suffix_ne)
  have name_ne_up : up ∉ [producer.name] := by
    intro member
    apply importable.upless
    rw [parts_eq]
    exact List.mem_append_right _ member
  have walked : (way consumer producer).foldl step consumer.parent.parts = producer.parent.parts :=
    foldl_step_route [] _ _ importable.upless_parent
  calc
    (consumer.parent.parts ++ (way consumer producer ++ [producer.name])).foldl step []
      = [producer.name].foldl step ((way consumer producer).foldl step consumer.parent.parts) := by
        rw [List.foldl_append, List.foldl_append,
          foldl_step_down [] consumerDirect.upless_parent, List.nil_append]
    _ = producer.parent.parts ++ [producer.name] := by
        rw [walked, foldl_step_down _ name_ne_up]
    _ = producer.parts := parts_eq.symm

/-- A specifier with its suffix, taken from the directory of the consumer, denotes the producer. -/
theorem Importable.normalised_specifier (here : Location) (consumerDirect : consumer.Direct)
    (suffix_ne : suffix ≠ []) (importable : Importable suffix producer) :
    (consumer.parent.join
      (ofText (specifier here consumer producer suffix ++ suffix))).normalised = producer := by
  have joined : consumer.parent.join ⟨.relative, way consumer producer ++ [producer.name]⟩ =
      ⟨.slash, consumer.parent.parts ++ (way consumer producer ++ [producer.name])⟩ := by
    have root_eq : consumer.parent.root = .slash := consumerDirect.root_eq
    simp [join, isAbsolute, root_eq]
  rw [(importable.read_specifier here consumerDirect suffix_ne).2, joined, normalised]
  dsimp only
  rw [importable.foldl_step_way consumerDirect suffix_ne, ← importable.root_eq]

/-- Specifiers are right.  The specifier of a producer starts with a dot segment; with the file
suffix behind it, and normalised against the directory of the consumer, it is the path of the
producer.  So no other producer has the same specifier in the same file. -/
theorem specifier_denotes_producer (here : Location) (consumerDirect : consumer.Direct)
    (dotted : suffix.head? = some '.') (importable : Importable suffix producer) :
    (['.', '/'] <+: specifier here consumer producer suffix ∨
        ['.', '.', '/'] <+: specifier here consumer producer suffix) ∧
      (consumer.parent.join
        (ofText (specifier here consumer producer suffix ++ suffix))).normalised = producer ∧
      ∀ other : Path, Importable suffix other →
        specifier here consumer other suffix = specifier here consumer producer suffix →
          other = producer := by
  have suffix_ne : suffix ≠ [] := by
    rintro rfl
    cases dotted
  have denoted := importable.normalised_specifier here consumerDirect suffix_ne
  refine ⟨(importable.read_specifier here consumerDirect suffix_ne).1, denoted, ?_⟩
  intro other otherImportable same
  have otherDenoted := otherImportable.normalised_specifier here consumerDirect suffix_ne
  rw [same, denoted] at otherDenoted
  exact otherDenoted.symm

end Importable

/-- The way goes up twice, then down through names of dots, and the stem is a double dot. -/
theorem specifier_denotes_dotted_producer :
    let consumer := ofText "/gen/plugins/deep/caddy-http.ts".toList
    let producer := ofText "/gen/..old/.d/...ts".toList
    consumer.Direct ∧ Importable ".ts".toList producer ∧
      specifier [] consumer producer ".ts".toList = "../../..old/.d/..".toList ∧
      (consumer.parent.join
        (ofText (specifier [] consumer producer ".ts".toList ++ ".ts".toList))).normalised =
          producer := by
  intro consumer producer
  have direct : consumer.Direct := ⟨⟨_, rfl⟩, by decide, by decide⟩
  have importable : Importable ".ts".toList producer :=
    ⟨⟨⟨_, rfl⟩, by decide, by decide⟩, "..".toList, by decide, by decide, by decide⟩
  refine ⟨direct, importable, by decide, ?_⟩
  exact (specifier_denotes_producer [] direct rfl importable).2.1

end DeclLinker.Path
