import DeskScript.Console.Routing
import Mathlib.Data.List.Perm.Basic

namespace DeskScript.Console

namespace Item

/-- The items of arguments in which every option that takes a value has one. -/
inductive Reads : List Text → List Item → Prop where
  | nil : Reads [] []
  | single (t : Text) {args : List Text} {items : List Item} (ht : takesValue t = false) (h : Reads args items) :
    Reads (t :: args) (.single t :: items)
  | valued (option value : Text) {args : List Text} {items : List Item} (hoption : takesValue option = true)
    (h : Reads args items) : Reads (option :: value :: args) (.valued option value :: items)

/-- The item has a value exactly if its option takes one. -/
def IsWhole : Item → Prop
  | single t => takesValue t = false
  | valued option _ => takesValue option = true

theorem ofArguments_cons (t : Text) (args : List Text) (ht : takesValue t = false) :
    ofArguments (t :: args) = single t :: ofArguments args := by
  cases args with
  | nil => rfl
  | cons v rest => simp [ofArguments, ht]

theorem Reads.ofArguments_eq {args : List Text} {items : List Item} (h : Reads args items) :
    ofArguments args = items := by
  induction h with
  | nil => rfl
  | single t ht _ ih => rw [ofArguments_cons t _ ht, ih]
  | valued option value hoption _ ih => rw [ofArguments, if_pos hoption, ih]

theorem Reads.isWhole {args : List Text} {items : List Item} (h : Reads args items) : ∀ i ∈ items, i.IsWhole := by
  induction h with
  | nil => exact List.forall_mem_nil _
  | single t ht _ ih => exact List.forall_mem_cons.2 ⟨ht, ih⟩
  | valued option value hoption _ ih => exact List.forall_mem_cons.2 ⟨hoption, ih⟩

theorem reads_flatMap_toArguments (items : List Item) (h : ∀ i ∈ items, i.IsWhole) :
    Reads (items.flatMap toArguments) items := by
  induction items with
  | nil => exact .nil
  | cons i items ih =>
    obtain ⟨hi, hitems⟩ := List.forall_mem_cons.1 h
    cases i with
    | single t => exact .single t hi (ih hitems)
    | valued option value => exact .valued option value hi (ih hitems)

theorem Reads.flatMap_toArguments {args : List Text} {items : List Item} (h : Reads args items) :
    items.flatMap toArguments = args := by
  rw [← h.ofArguments_eq, flatMap_toArguments_ofArguments]

end Item

open Item

def globalArguments (items : List Item) : List Text := (items.filter Item.isGlobal).flatMap toArguments

def otherArguments (items : List Item) : List Text := (items.filter fun i => !i.isGlobal).flatMap toArguments

/-- The command and its arguments, told by what is no global option and by who is there. -/
inductive Chooses (terminal : Bool) : List Text → Text → List Text → Prop where
  | named (command : Text) (rest : List Text) (h : isCommand command = true) :
    Chooses terminal (command :: rest) command rest
  | typing (h : terminal = true) : Chooses terminal [] runRepl []
  | piped (h : terminal = false) : Chooses terminal [] runFiles ["-".toList]
  | repl (t : Text) (rest : List Text) (ht : isCommand t = false) (h : "--repl".toList ∈ t :: rest) :
    Chooses terminal (t :: rest) runRepl []
  | files (t : Text) (rest : List Text) (ht : isCommand t = false) (h : "--repl".toList ∉ t :: rest) :
    Chooses terminal (t :: rest) runFiles (t :: rest)

theorem chooseCommand_cons (terminal : Bool) (t : Text) (rest : List Text) :
    chooseCommand terminal (t :: rest) =
      if isCommand t = true then (t, rest)
      else if "--repl".toList ∈ t :: rest then (runRepl, [])
      else (runFiles, t :: rest) := by
  rw [chooseCommand]
  simp only [List.elem_iff]

theorem chooses_iff (terminal : Bool) (others : List Text) (command : Text) (rest : List Text) :
    Chooses terminal others command rest ↔ chooseCommand terminal others = (command, rest) := by
  constructor
  · intro h
    cases h with
    | named _ _ h => rw [chooseCommand_cons, if_pos h]
    | typing h => rw [chooseCommand, if_pos h]
    | piped h => rw [chooseCommand, h]; rfl
    | repl t _ ht h => rw [chooseCommand_cons, if_neg (by simp [ht]), if_pos h]
    | files t _ ht h => rw [chooseCommand_cons, if_neg (by simp [ht]), if_neg h]
  · intro h
    cases others with
    | nil =>
      cases terminal with
      | true =>
        cases h
        exact .typing rfl
      | false =>
        cases h
        exact .piped rfl
    | cons t others =>
      rw [chooseCommand_cons] at h
      split_ifs at h with ht hrepl
      · cases h
        exact .named _ _ ht
      · cases h
        exact .repl t others (eq_false_of_ne_true ht) hrepl
      · cases h
        exact .files t others (eq_false_of_ne_true ht) hrepl

theorem perm_globalArguments_append (items : List Item) :
    (globalArguments items ++ otherArguments items).Perm (items.flatMap toArguments) := by
  rw [globalArguments, otherArguments, ← List.flatMap_append]
  exact (List.filter_append_perm Item.isGlobal items).flatMap_right toArguments

theorem route_eq (terminal : Bool) (args : List Text) (items : List Item) (h : Reads args items) :
    ∃ command rest, Chooses terminal (otherArguments items) command rest ∧
      route terminal args = globalArguments items ++ command :: rest := by
  refine ⟨_, _, (chooses_iff ..).2 rfl, ?_⟩
  rw [route, h.ofArguments_eq]
  rfl

theorem reads_reordered (args : List Text) (items items' : List Item) (h : Reads args items)
    (hglobals : items'.filter Item.isGlobal = items.filter Item.isGlobal)
    (hothers : items'.filter (fun i => !i.isGlobal) = items.filter fun i => !i.isGlobal) :
    Reads (items'.flatMap toArguments) items' := by
  have hperm : items'.Perm items := by
    refine (List.filter_append_perm Item.isGlobal items').symm.trans ?_
    rw [hglobals, hothers]
    exact List.filter_append_perm Item.isGlobal items
  exact reads_flatMap_toArguments items' fun i hi => h.isWhole i (hperm.mem_iff.1 hi)

/-- The global options may stand anywhere. What is passed on is the same for every order of the items that keeps the
order of the global options and that of the other arguments: the global options first, then the command, told by the
other arguments, then what is left of these. All the arguments are among the global and the other ones. -/
theorem route_reordered (terminal : Bool) (args : List Text) (items items' : List Item) (h : Reads args items)
    (hglobals : items'.filter Item.isGlobal = items.filter Item.isGlobal)
    (hothers : items'.filter (fun i => !i.isGlobal) = items.filter fun i => !i.isGlobal) :
    ∃ command rest, Chooses terminal (otherArguments items) command rest ∧
      route terminal args = globalArguments items ++ command :: rest ∧
      route terminal (items'.flatMap toArguments) = globalArguments items ++ command :: rest ∧
      (globalArguments items ++ otherArguments items).Perm args := by
  obtain ⟨command, rest, hchoice, hroute⟩ := route_eq terminal args items h
  obtain ⟨command', rest', hchoice', hroute'⟩ :=
    route_eq terminal _ items' (reads_reordered args items items' h hglobals hothers)
  have hsame : otherArguments items' = otherArguments items := by rw [otherArguments, hothers, otherArguments]
  rw [hsame, chooses_iff, (chooses_iff ..).1 hchoice] at hchoice'
  cases hchoice'
  refine ⟨command, rest, hchoice, hroute, ?_, ?_⟩
  · rw [hroute', globalArguments, hglobals, globalArguments]
  · rw [← h.flatMap_toArguments]
    exact perm_globalArguments_append items

/-- Values of options that look like options and commands, moved behind the other arguments. -/
theorem route_reordered_values :
    let items : List Item :=
      [.valued "-w".toList "-v".toList, .single "a".toList, .valued "-w".toList "run-file".toList, .single "-vv".toList,
        .single "--repl".toList]
    let items' : List Item :=
      [.single "a".toList, .single "--repl".toList, .valued "-w".toList "-v".toList,
        .valued "-w".toList "run-file".toList, .single "-vv".toList]
    let args : List Text := ["-w", "-v", "a", "-w", "run-file", "-vv", "--repl"].map String.toList
    Reads args items ∧ items'.filter Item.isGlobal = items.filter Item.isGlobal ∧
      items'.filter (fun i => !i.isGlobal) = (items.filter fun i => !i.isGlobal) ∧
      route false (items'.flatMap toArguments) = route false args ∧
      route false args = ["-w", "-v", "-w", "run-file", "-vv", "run-repl"].map String.toList := by
  intro items items' args
  have hreads : Reads args items :=
    .valued _ _ rfl (.single _ rfl (.valued _ _ rfl (.single _ rfl (.single _ rfl .nil))))
  have hglobals : items'.filter Item.isGlobal = items.filter Item.isGlobal := by decide
  have hothers : items'.filter (fun i => !i.isGlobal) = items.filter fun i => !i.isGlobal := by decide
  obtain ⟨command, rest, -, hroute, hroute', -⟩ := route_reordered false args items items' hreads hglobals hothers
  exact ⟨hreads, hglobals, hothers, hroute'.trans hroute.symm, by decide⟩

end DeskScript.Console
