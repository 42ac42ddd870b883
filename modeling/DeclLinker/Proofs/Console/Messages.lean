import DeclLinker.Command.Run
import DeclLinker.Proofs.Console.Printing
import DeclLinker.Proofs.Import.Naming
import Mathlib.Data.List.Forall2

/-!
# Status messages as they are printed

A plain message is printed as it stands behind its indentation and its mark; behind a mark without
tags only a plain one is.  Messages are shown one after the other: the run goes on when all of them
can be printed, and crashes at the first that cannot be.  Words, numbers and what is made of them
are always plain.
-/

namespace DeclLinker

namespace Console

open Markup Text

/-! ## Status messages -/

/-- The colours of the signs before messages. -/
theorem isTint_of_mem {colour : Text}
    (member : colour ∈ ["green".toList, "red".toList, "yellow".toList]) : IsTint colour := by
  have checked : ∀ colour ∈ ["green".toList, "red".toList, "yellow".toList],
      colour.head?.any startsTag = true ∧
      (∀ char ∈ colour, insideTag char = true ∧ char ≠ '=' ∧ char ≠ '/') ∧
      trim colour = colour ∧ styleName colour = .ok colour ∧ Action.isName colour = false ∧
      (Style.ofText? colour).isOk = true := by
    decide +kernel
  obtain ⟨starts, inside, trimmed, normal, inactive, legible⟩ := checked colour member
  exact ⟨starts, inside, trimmed, normal, inactive, legible⟩

/-- The mark before a message without its tags. -/
def StatusStyle.sign : StatusStyle → Text
  | .success => "✓ ".toList
  | .error => "✗ ".toList
  | .warning => "⚠ ".toList
  | .info => "  ".toList
  | .bullet => "- ".toList
  | .none | .other _ => []

/-- A mark is a sign, or a sign in a colour before a blank. -/
theorem StatusStyle.marker_cases (style : StatusStyle) :
    style.marker = style.sign ∨ ∃ colour sign, IsTint colour ∧ IsMild [sign] ∧ sign ≠ '\n' ∧
      style.marker = tagOf colour ++ ([sign] ++ (tagOf ('/' :: colour) ++ [' '])) ∧
      style.sign = [sign, ' '] := by
  cases style with
  | success =>
      exact .inr ⟨_, '✓', isTint_of_mem List.mem_cons_self, by decide, by decide, rfl, rfl⟩
  | error =>
      exact .inr
        ⟨_, '✗', isTint_of_mem (.tail _ List.mem_cons_self), by decide, by decide, rfl, rfl⟩
  | warning =>
      exact .inr ⟨_, '⚠', isTint_of_mem (.tail _ (.tail _ List.mem_cons_self)), by decide,
        by decide, rfl, rfl⟩
  | info | bullet | none | other name => exact .inl rfl

namespace Status

/-- The line of a status without its tags. -/
def plainLine (status : Status) : Text :=
  List.replicate status.indent ' ' ++ status.style.sign ++ status.message

/-- What stands before a message whose mark has no tags. -/
theorem isMild_lead (status : Status) :
    IsMild (List.replicate status.indent ' ' ++ status.style.sign) := by
  refine isMild_append.mpr ⟨isMild_replicate (by decide) _, ?_⟩
  cases status.style with
  | other name => exact fun _ member => absurd member List.not_mem_nil
  | _ => decide

theorem feed_not_mem_sign (style : StatusStyle) : '\n' ∉ style.sign := by
  cases style with
  | other name => exact List.not_mem_nil
  | _ => decide

/-- Behind a mark without tags, a message is printed as it stands exactly when it is plain. -/
theorem print_eq_plainLine_iff {status : Status}
    (untagged : status.style.marker = status.style.sign) :
    status.print = .ok (status.plainLine ++ ['\n']) ↔ IsPlain status.message := by
  have leadMild := status.isMild_lead
  rw [print, plainLine, line, untagged, print_eq_self_iff,
    isPlain_append_iff (.inl leadMild.isQuiet), and_iff_right leadMild.isPlain]

/-- The line of a message with a coloured mark. -/
theorem line_of_tint {status : Status} {colour : Text} {sign : Char}
    (marker_eq : status.style.marker =
      tagOf colour ++ ([sign] ++ (tagOf ('/' :: colour) ++ [' ']))) :
    status.line = tinted colour (List.replicate status.indent ' ') [sign]
      ([' '] ++ status.message) := by
  simp only [line, tinted, marker_eq, List.append_assoc]

/-- A plain message is printed as it stands behind every mark. -/
theorem print_of_isPlain {status : Status} (plain : IsPlain status.message) :
    status.print = .ok (status.plainLine ++ ['\n']) := by
  rcases status.style.marker_cases with untagged |
    ⟨colour, sign, tint, signMild, notFeed, marker_eq, sign_eq⟩
  · exact (print_eq_plainLine_iff untagged).mpr plain
  · have indentMild : IsMild (List.replicate status.indent ' ') := isMild_replicate (by decide) _
    have blankMild : IsMild [' '] := by decide
    have behind : IsPlain ([' '] ++ status.message) :=
      (isPlain_append_iff (.inl blankMild.isQuiet)).mpr ⟨blankMild.isPlain, plain⟩
    have feedless : '\n' ∉ List.replicate status.indent ' ' ++ [sign] := by
      simp [notFeed.symm]
    have printed := tint.print indentMild signMild feedless behind
    rw [print, line_of_tint marker_eq, printed, plainLine, sign_eq]
    simp only [List.append_assoc, List.cons_append, List.nil_append]

/-- A message can be printed behind its mark exactly when it can be alone. -/
theorem exists_print_iff {status : Status} :
    (∃ out, status.print = .ok out) ↔ Printable status.message := by
  rw [print, Markup.exists_print_iff]
  rcases status.style.marker_cases with untagged |
    ⟨colour, sign, tint, signMild, notFeed, marker_eq, -⟩
  · have feedless : '\n' ∉ List.replicate status.indent ' ' ++ status.style.sign := by
      simp [feed_not_mem_sign]
    rw [line, untagged, printable_append_iff status.isMild_lead feedless]
  · have feedless : '\n' ∉ List.replicate status.indent ' ' ++ [sign] := by
      simp [notFeed.symm]
    rw [line_of_tint marker_eq,
      tint.printable_iff (isMild_replicate (by decide) _) signMild feedless,
      printable_append_iff (by decide) (by decide)]

theorem print_bare_nil : (bare []).print = .ok ([] ++ ['\n']) :=
  print_of_isPlain (by decide : IsMild []).isPlain

end Status

/-! ## Messages one after the other -/

/-- What the console prints for status messages one after the other. -/
def printed (statuses : List Status) : Except MarkupFault (List Text) :=
  statuses.mapM Status.print

/-- Every status is printed as the line at its place. -/
def Shows (statuses : List Status) (lines : List Text) : Prop :=
  List.Forall₂ (fun status line => status.print = .ok (line ++ ['\n'])) statuses lines

theorem printed_cons (status : Status) (rest : List Status) :
    printed (status :: rest) =
      status.print.bind fun text => (printed rest).map fun texts => text :: texts := by
  rw [printed, List.mapM_cons]
  rfl

theorem printed_eq_ok_iff {statuses : List Status} {texts : List Text} :
    printed statuses = .ok texts ↔
      List.Forall₂ (fun status text => status.print = .ok text) statuses texts := by
  induction statuses generalizing texts with
  | nil =>
      rw [List.forall₂_nil_left_iff]
      exact ⟨fun same => (Except.ok.inj same).symm, fun same => same ▸ rfl⟩
  | cons status rest ih =>
      rw [List.forall₂_cons_left_iff, printed_cons]
      simp only [← ih]
      cases status.print with
      | error fault => simp [Except.bind]
      | ok text => cases printed rest <;> simp [Except.bind, Except.map, eq_comm]

/-- Messages can be printed one after the other exactly when each of them can be. -/
theorem exists_printed_iff {statuses : List Status} :
    (∃ texts, printed statuses = .ok texts) ↔
      ∀ status ∈ statuses, Printable status.message := by
  simp only [← Status.exists_print_iff, printed_eq_ok_iff]
  induction statuses with
  | nil => simp
  | cons status rest ih =>
      rw [List.forall_mem_cons, ← ih]
      simp only [List.forall₂_cons_left_iff]
      constructor
      · rintro ⟨texts, text, later, printed, all, -⟩
        exact ⟨⟨text, printed⟩, later, all⟩
      · rintro ⟨⟨text, printed⟩, later, all⟩
        exact ⟨text :: later, text, later, printed, all, rfl⟩

theorem printed_lines_iff {statuses : List Status} {lines : List Text} :
    printed statuses = .ok (lines.map (· ++ ['\n'])) ↔ Shows statuses lines := by
  rw [printed_eq_ok_iff, List.forall₂_map_right_iff, Shows]

variable {first second : List Status} {lines more : List Text}

@[simp]
theorem shows_nil : Shows [] [] :=
  List.Forall₂.nil

@[simp]
theorem shows_cons {status : Status} {line : Text} :
    Shows (status :: first) (line :: lines) ↔
      status.print = .ok (line ++ ['\n']) ∧ Shows first lines :=
  List.forall₂_cons

theorem shows_append (length_eq : first.length = lines.length) :
    Shows (first ++ second) (lines ++ more) ↔ Shows first lines ∧ Shows second more := by
  induction first generalizing lines with
  | nil =>
      obtain rfl := List.length_eq_zero_iff.mp length_eq.symm
      simp
  | cons status first ih =>
      obtain ⟨line, lines, rfl⟩ := List.exists_cons_of_length_eq_add_one length_eq.symm
      have shorter : first.length = lines.length := Nat.succ.inj length_eq
      simp [ih shorter, and_assoc]

theorem shows_flatMap {α : Type} {items : List α} {statuses : α → List Status}
    {lines : α → List Text} (length_eq : ∀ item, (statuses item).length = (lines item).length) :
    Shows (items.flatMap statuses) (items.flatMap lines) ↔
      ∀ item ∈ items, Shows (statuses item) (lines item) := by
  induction items with
  | nil => simp
  | cons item items ih =>
      rw [List.flatMap_cons, List.flatMap_cons, shows_append (length_eq item), ih,
        List.forall_mem_cons]

theorem shows_ite {condition : Prop} [Decidable condition] :
    Shows (if condition then first else second) (if condition then lines else more) ↔
      (condition → Shows first lines) ∧ (¬condition → Shows second more) := by
  by_cases holds : condition <;> simp [holds]

theorem shows_optional {condition : Prop} [Decidable condition] {status : Status} {line : Text}
    (shown : status.print = .ok (line ++ ['\n'])) :
    Shows (if condition then [] else [status]) (if condition then [] else [line]) := by
  split
  · exact shows_nil
  · exact shows_cons.mpr ⟨shown, shows_nil⟩

/-! ## Messages that are always plain -/

theorem isMild_around {before middle behind : Text} (beforeMild : IsMild before)
    (middleMild : IsMild middle) (behindMild : IsMild behind) :
    IsMild (before ++ middle ++ behind) :=
  isMild_append.mpr ⟨isMild_append.mpr ⟨beforeMild, middleMild⟩, behindMild⟩

theorem isMild_of_isDotted {text : Text} (dotted : ∀ char ∈ text, isDotted char = true) :
    IsMild text := by
  intro char member
  have foreign : ∀ other, isDotted other = false → char ≠ other := by
    rintro other undotted rfl
    rw [dotted char member] at undotted
    cases undotted
  have numbered : ∀ point, isDotted (Char.ofNat point) = false → char.toNat ≠ point := by
    rintro point undotted rfl
    exact foreign _ undotted (Char.ofNat_toNat char).symm
  refine ⟨?_, ?_, foreign '\t' (by decide)⟩
  · simp [isMark, foreign '[' (by decide), foreign ']' (by decide), foreign ':' (by decide),
      foreign '\\' (by decide)]
  · simp [Reading.isControl, numbered 7 (by decide), numbered 8 (by decide),
      numbered 11 (by decide), numbered 12 (by decide), numbered 13 (by decide)]

theorem isMild_ofNat (number : Nat) : IsMild (Text.ofNat number) :=
  isMild_of_isDotted fun char member => isDotted_of_isWord (ofNat_word char member)

theorem isMild_ofInt (number : Int) : IsMild (Text.ofInt number) := by
  cases number with
  | ofNat number => exact isMild_ofNat number
  | negSucc less =>
      have minus : IsMild ['-'] := by decide
      exact isMild_append.mpr ⟨minus, isMild_ofNat (less + 1)⟩

theorem isMild_pluralize {noun : Text} (mild : IsMild noun) (count : Int) :
    IsMild (pluralize count noun) := by
  have blank : IsMild [' '] := by decide
  have ending : IsMild ['s'] := by decide
  change IsMild (Text.ofInt count ++ ([' '] ++ if count = 1 then noun else pluralOf noun))
  refine isMild_append.mpr ⟨isMild_ofInt count, isMild_append.mpr ⟨blank, ?_⟩⟩
  split
  · exact mild
  · exact isMild_append.mpr ⟨mild, ending⟩

end Console

namespace Command.Step

open Console

/-- The session after status messages: each is printed and then told to the log. -/
def shown (session : Session) (messages : List (Status × Text)) : Session :=
  messages.foldl (fun session message => (session.print message.2).tell message.1.event) session

theorem run_showStatus (status : Status) (session : Session) :
    (showStatus status).run session =
      match status.print with
      | .ok text => (.ok (), (session.print text).tell status.event)
      | .error fault => (.error (.crash (.markup fault)), session) := by
  cases printed : status.print with
  | ok text => simp [showStatus, change, Session.status, printed, Except.map]; rfl
  | error fault => simp [showStatus, change, Session.status, printed, Except.map]; rfl

theorem run_showAll_cons (status : Status) (rest : List Status) (session : Session) :
    (showAll (status :: rest)).run session =
      match (showStatus status).run session with
      | (.ok (), next) => (showAll rest).run next
      | (.error ending, next) => (.error ending, next) := by
  have sequence : showAll (status :: rest) = showStatus status >>= fun _ => showAll rest := rfl
  rw [sequence, ExceptT.run_bind]
  change StateT.bind (showStatus status).run _ session = _
  simp only [StateT.bind, bind]
  cases (showStatus status).run session with
  | mk result next => cases result <;> rfl

/-- Messages that can be printed are all shown, and the run goes on; at the first that cannot be it
crashes. -/
theorem run_showAll (statuses : List Status) (session : Session) :
    match printed statuses with
    | .ok texts => (showAll statuses).run session = (.ok (), shown session (statuses.zip texts))
    | .error fault => ((showAll statuses).run session).1 = .error (.crash (.markup fault)) := by
  induction statuses generalizing session with
  | nil => rfl
  | cons status rest ih =>
      rw [printed_cons, run_showAll_cons, run_showStatus]
      cases status.print with
      | error fault => rfl
      | ok text =>
          have later := ih ((session.print text).tell status.event)
          cases texts : printed rest with
          | error fault =>
              rw [texts] at later
              exact later
          | ok texts' =>
              rw [texts] at later
              exact later

end Command.Step

end DeclLinker
