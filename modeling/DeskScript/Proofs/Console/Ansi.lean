import DeskScript.Console.Report
import DeskScript.Proofs.Text.Blank
import DeskScript.Script.Run

namespace DeskScript.Ansi

def IsCode (code : Text) : Prop :=
  ∃ parameters, (∀ c ∈ parameters, isParameter c = true) ∧ code = '\x1b' :: '[' :: (parameters ++ ['m'])

def codes : List Text := [grey, bright, bold, backdrop, reset]

theorem isCode_of_codeLength? {t : Text} (h : codeLength? t = some t.length) : IsCode t := by
  unfold codeLength? at h
  split at h
  · rename_i r
    split at h
    · rename_i rest hrest
      have hr := List.takeWhile_append_dropWhile (p := isParameter) (l := r)
      have hlength := congrArg List.length hr
      rw [hrest] at hr hlength
      have hrest : rest = [] := by
        have hcode := Option.some.inj h
        rw [List.length_cons, List.length_cons] at hcode
        rw [List.length_append, List.length_cons] at hlength
        exact List.length_eq_zero_iff.1 (by omega)
      subst hrest
      exact ⟨_, fun c hc => List.mem_takeWhile_imp hc, congrArg ('\x1b' :: '[' :: ·) hr.symm⟩
    · cases h
  · cases h

theorem isCode_of_mem (code : Text) (h : code ∈ codes) : IsCode code := by
  have hall : ∀ code ∈ codes, codeLength? code = some code.length := by decide
  exact isCode_of_codeLength? (hall code h)

theorem IsCode.newline_notMem {code : Text} (h : IsCode code) : '\n' ∉ code := by
  obtain ⟨parameters, hparameters, rfl⟩ := h
  have hn : '\n' ∉ parameters := fun hmem => absurd (hparameters _ hmem) (by decide)
  simp [hn]

theorem codeLength?_append (parameters rest : Text) (h : ∀ c ∈ parameters, isParameter c = true) :
    codeLength? ('\x1b' :: '[' :: (parameters ++ 'm' :: rest)) = some (parameters.length + 3) := by
  obtain ⟨htake, hdrop⟩ := Text.takeWhile_dropWhile_append isParameter parameters ('m' :: rest) h (by rintro _ ⟨⟩; rfl)
  rw [codeLength?, hdrop, htake]
  rfl

theorem codeLength?_of_ne (c : Char) (t : Text) (h : c ≠ '\x1b') : codeLength? (c :: t) = none := by
  unfold codeLength?
  split
  · rename_i heq
    exact absurd (List.cons.inj heq).1 h
  · rfl

@[simp] theorem stripFrom_length_append (code rest : Text) : stripFrom code.length (code ++ rest) = strip rest := by
  induction code with
  | nil => rfl
  | cons c code ih => exact ih

theorem IsCode.exists_cons {code : Text} (h : IsCode code) : ∃ body, code = '\x1b' :: body ∧ '\x1b' ∉ body := by
  obtain ⟨parameters, hparameters, rfl⟩ := h
  refine ⟨'[' :: (parameters ++ ['m']), rfl, ?_⟩
  have hescape : '\x1b' ∉ parameters := fun hmem => absurd (hparameters _ hmem) (by decide)
  simp [hescape]

theorem codeLength?_append_of_isCode (code rest : Text) (h : IsCode code) :
    codeLength? (code ++ rest) = some code.length := by
  obtain ⟨parameters, hparameters, rfl⟩ := h
  have happend := codeLength?_append parameters rest hparameters
  simpa using happend

theorem strip_append_of_isCode (code rest : Text) (h : IsCode code) : strip (code ++ rest) = strip rest := by
  have hcode := codeLength?_append_of_isCode code rest h
  obtain ⟨body, rfl, -⟩ := h.exists_cons
  rw [List.cons_append] at hcode ⊢
  rw [strip, stripFrom, hcode]
  exact stripFrom_length_append body rest

theorem strip_append_of_notMem (t rest : Text) (h : '\x1b' ∉ t) : strip (t ++ rest) = t ++ strip rest := by
  induction t with
  | nil => rfl
  | cons c t ih =>
    have hc : c ≠ '\x1b' := fun he => h (he ▸ List.mem_cons_self ..)
    have hcode : codeLength? (c :: (t ++ rest)) = none := codeLength?_of_ne c _ hc
    have ht := ih fun hmem => h (List.mem_cons_of_mem _ hmem)
    rw [List.cons_append, strip, stripFrom, hcode]
    exact congrArg (c :: ·) ht

theorem strip_eq_self (t : Text) (h : '\x1b' ∉ t) : strip t = t := by
  have happend := strip_append_of_notMem t [] h
  have hnil : strip [] = [] := rfl
  rwa [hnil, List.append_nil] at happend

def BeginsWithCode (t : Text) : Prop := ∃ code, IsCode code ∧ code <+: t

def HasCode (t : Text) : Prop := ∃ code, IsCode code ∧ code <:+: t

theorem codeLength?_eq_none_iff (t : Text) : codeLength? t = none ↔ ¬BeginsWithCode t := by
  constructor
  · rintro h ⟨code, hcode, rest, rfl⟩
    rw [codeLength?_append_of_isCode code rest hcode] at h
    cases h
  · intro h
    unfold codeLength?
    split
    · rename_i r
      split
      · rename_i rest hrest
        refine absurd ⟨_, ⟨r.takeWhile isParameter, fun c hc => List.mem_takeWhile_imp hc, rfl⟩, rest, ?_⟩ h
        have hr := List.takeWhile_append_dropWhile (p := isParameter) (l := r)
        rw [hrest] at hr
        conv_rhs => rw [← hr]
        simp
      · rfl
    · rfl

/-- A code ends where it ends, whatever stands behind it. -/
theorem IsCode.eq_of_isPrefix {code code' : Text} (h : IsCode code) (h' : IsCode code') {rest : Text}
    (hfront : code <+: code' ++ rest) : code = code' := by
  obtain ⟨rest', hrest⟩ := hfront
  have hlength := congrArg codeLength? hrest
  rw [codeLength?_append_of_isCode _ _ h, codeLength?_append_of_isCode _ _ h'] at hlength
  exact List.append_inj_left hrest (Option.some.inj hlength)

theorem IsCode.isInfix_of_notMem {code : Text} (h : IsCode code) (t rest : Text) (ht : '\x1b' ∉ t)
    (hstands : code <:+: t ++ rest) : code <:+: rest := by
  induction t with
  | nil => exact hstands
  | cons c t ih =>
    rw [List.mem_cons, not_or] at ht
    obtain hfront | hstands := List.infix_cons_iff.1 hstands
    · obtain ⟨body, rfl, -⟩ := h.exists_cons
      exact absurd (List.cons_prefix_cons.1 hfront).1 ht.1
    · exact ih ht.2 hstands

theorem IsCode.isInfix_of_ne {code code' : Text} (h : IsCode code) (h' : IsCode code') (hne : code ≠ code')
    (rest : Text) (hstands : code <:+: code' ++ rest) : code <:+: rest := by
  have hfront : ¬code <+: code' ++ rest := fun hfront => hne (h.eq_of_isPrefix h' hfront)
  obtain ⟨body, rfl, hbody⟩ := h'.exists_cons
  exact h.isInfix_of_notMem body rest hbody ((List.infix_cons_iff.1 hstands).resolve_left hfront)

theorem IsCode.not_isInfix {code : Text} (h : IsCode code) (t : Text) (ht : '\x1b' ∉ t) : ¬code <:+: t := by
  obtain ⟨body, rfl, -⟩ := h.exists_cons
  exact fun hstands => ht (hstands.subset (List.mem_cons_self ..))

theorem IsCode.not_isInfix_wrap {code colour t : Text} (h : IsCode code) (hcolour : IsCode colour)
    (hne : code ≠ colour) (hreset : code ≠ reset) (ht : '\x1b' ∉ t) : ¬code <:+: wrap colour t := by
  intro hstands
  rw [wrap, List.append_assoc, ← List.append_nil reset] at hstands
  have hbehind := h.isInfix_of_notMem t _ ht (h.isInfix_of_ne hcolour hne _ hstands)
  exact h.not_isInfix [] List.not_mem_nil (h.isInfix_of_ne (isCode_of_mem reset (by decide)) hreset _ hbehind)

theorem strip_cons (c : Char) (t : Text) (h : ¬BeginsWithCode (c :: t)) : strip (c :: t) = c :: strip t := by
  rw [strip, stripFrom, (codeLength?_eq_none_iff _).2 h]
  rfl

/-- A text is gone through as it is stripped: a code stands at its front, or a character that begins none. -/
@[elab_as_elim]
theorem codeInduction {motive : Text → Prop} (nil : motive [])
    (code : ∀ code t, IsCode code → motive t → motive (code ++ t))
    (plain : ∀ c t, ¬BeginsWithCode (c :: t) → motive t → motive (c :: t)) (t : Text) : motive t := by
  match t with
  | [] => exact nil
  | c :: t =>
    by_cases h : BeginsWithCode (c :: t)
    · obtain ⟨z, hz, rest, hrest⟩ := h
      have hsmaller : rest.length < (c :: t).length := by
        obtain ⟨body, rfl, -⟩ := hz.exists_cons
        rw [← hrest, List.length_append, List.length_cons]
        omega
      rw [← hrest]
      exact code z rest hz (codeInduction nil code plain rest)
    · exact plain c t h (codeInduction nil code plain t)
termination_by t.length
decreasing_by
  · exact hsmaller
  · exact Nat.lt_succ_self _

/-- A code begins with the only escape in it, so none goes over another escape. -/
theorem BeginsWithCode.of_append {u r : Text} (hne : u ≠ []) (h : BeginsWithCode (u ++ '\x1b' :: r)) :
    BeginsWithCode u := by
  obtain ⟨code, hcode, hfront⟩ := h
  obtain h | ⟨s, rfl⟩ := List.prefix_or_prefix_of_prefix hfront (List.prefix_append u ('\x1b' :: r))
  · exact ⟨code, hcode, h⟩
  · cases s with
    | nil => exact ⟨u, by simpa using hcode, List.prefix_rfl⟩
    | cons d s =>
      have hd : d = '\x1b' := (List.cons_prefix_cons.1 ((List.prefix_append_right_inj u).1 hfront)).1
      obtain ⟨body, hbody, hescape⟩ := hcode.exists_cons
      obtain ⟨c, u, rfl⟩ := List.exists_cons_of_ne_nil hne
      rw [List.cons_append, hd] at hbody
      rw [← (List.cons.inj hbody).2] at hescape
      exact absurd (List.mem_append_right u (List.mem_cons_self ..)) hescape

/-- At an escape a text is stripped in two parts. -/
theorem strip_append_escape (t r : Text) : strip (t ++ '\x1b' :: r) = strip t ++ strip ('\x1b' :: r) := by
  induction t using codeInduction with
  | nil => rfl
  | code code t hcode ih =>
    rw [List.append_assoc, strip_append_of_isCode _ _ hcode, strip_append_of_isCode _ _ hcode, ih]
  | plain c t hno ih =>
    have hno' : ¬BeginsWithCode (c :: t ++ '\x1b' :: r) := fun h => hno (h.of_append (List.cons_ne_nil c t))
    rw [List.cons_append] at hno' ⊢
    rw [strip_cons _ _ hno', strip_cons _ _ hno, ih]
    rfl

/-- Behind a text that is left without an escape, stripping starts anew. -/
theorem strip_append (t r : Text) (h : '\x1b' ∉ strip t) : strip (t ++ r) = strip t ++ strip r := by
  induction t using codeInduction with
  | nil => rfl
  | code code t hcode ih =>
    rw [strip_append_of_isCode _ _ hcode] at h ⊢
    rw [List.append_assoc, strip_append_of_isCode _ _ hcode, ih h]
  | plain c t hno ih =>
    rw [strip_cons _ _ hno, List.mem_cons, not_or] at h
    have hno' : ¬BeginsWithCode (c :: (t ++ r)) :=
      (codeLength?_eq_none_iff _).1 (codeLength?_of_ne c _ (Ne.symm h.1))
    rw [List.cons_append, strip_cons _ _ hno', strip_cons _ _ hno, ih h.2]
    rfl

theorem strip_wrap (colour t : Text) (hcolour : IsCode colour) (h : '\x1b' ∉ t) : strip (wrap colour t) = t := by
  have hreset : strip reset = [] := by decide
  rw [wrap, List.append_assoc, strip_append_of_isCode _ _ hcolour, strip_append_of_notMem _ _ h, hreset,
    List.append_nil]

theorem strip_flatMap (lines : List Text) (h : ∀ l ∈ lines, '\x1b' ∉ strip l) :
    strip (lines.flatMap (· ++ ['\n'])) = lines.flatMap fun l => strip l ++ ['\n'] := by
  induction lines with
  | nil => rfl
  | cons l lines ih =>
    have hrest := ih fun l' hl' => h l' (List.mem_cons_of_mem _ hl')
    rw [List.flatMap_cons, List.flatMap_cons, List.append_assoc, strip_append l _ (h l (List.mem_cons_self ..)),
      strip_append_of_notMem ['\n'] _ (by decide), hrest, List.append_assoc]

theorem exists_of_strip_eq_append (t a b : Text) (c : Char) (h : strip t = a ++ c :: b) :
    ∃ x r, t = x ++ c :: r ∧ ¬BeginsWithCode (c :: r) ∧ strip r = b := by
  induction t using codeInduction generalizing a with
  | nil => simp [strip, stripFrom] at h
  | code code t hcode ih =>
    rw [strip_append_of_isCode _ _ hcode] at h
    obtain ⟨x, r, rfl, hr⟩ := ih a h
    exact ⟨code ++ x, r, (List.append_assoc ..).symm, hr⟩
  | plain d t hno ih =>
    rw [strip_cons _ _ hno] at h
    cases a with
    | nil =>
      obtain ⟨rfl, rfl⟩ := List.cons.inj h
      exact ⟨[], t, rfl, hno, rfl⟩
    | cons e a =>
      obtain ⟨x, r, rfl, hr⟩ := ih a (List.cons.inj h).2
      exact ⟨d :: x, r, rfl, hr⟩

/-- The second text is the first one with codes put in. -/
inductive Coloured : Text → Text → Prop where
  | nil : Coloured [] []
  | code (code : Text) {r t : Text} (hcode : IsCode code) (h : Coloured r t) : Coloured r (code ++ t)
  | plain (c : Char) {r t : Text} (h : Coloured r t) : Coloured (c :: r) (c :: t)

theorem coloured_strip (t : Text) : Coloured (strip t) t := by
  induction t using codeInduction with
  | nil => exact .nil
  | code code t hcode ih =>
    rw [strip_append_of_isCode _ _ hcode]
    exact .code code hcode ih
  | plain c t hno ih =>
    rw [strip_cons _ _ hno]
    exact .plain c ih

theorem Coloured.length_le {r t : Text} (h : Coloured r t) : r.length ≤ t.length := by
  induction h with
  | nil => exact le_rfl
  | code code hcode h ih =>
    rw [List.length_append]
    omega
  | plain c h ih => exact Nat.succ_le_succ ih

theorem strip_eq_self_iff (t : Text) : strip t = t ↔ ¬HasCode t := by
  constructor
  · rintro h ⟨code, hcode, a, b, rfl⟩
    -- The text gets shorter by the code at least.
    obtain ⟨body, rfl, hbody⟩ := hcode.exists_cons
    have hstrip : strip (a ++ '\x1b' :: body ++ b) = strip a ++ strip b := by
      rw [List.append_assoc, List.cons_append, strip_append_escape, ← List.cons_append,
        strip_append_of_isCode _ _ hcode]
    have hlength := congrArg List.length (hstrip.symm.trans h)
    have ha := (coloured_strip a).length_le
    have hb := (coloured_strip b).length_le
    simp only [List.length_append, List.length_cons] at hlength
    omega
  · intro h
    induction t using codeInduction with
    | nil => rfl
    | code code t hcode ih => exact absurd ⟨code, hcode, (List.prefix_append code t).isInfix⟩ h
    | plain c t hno ih =>
      rw [strip_cons _ _ hno, ih]
      rintro ⟨code, hcode, hstands⟩
      exact h ⟨code, hcode, hstands.trans (List.suffix_cons c t).isInfix⟩

/-- A code is left where an escape that begins none has the end of one behind it, but for codes in between. -/
theorem hasCode_strip_iff (t : Text) :
    HasCode (strip t) ↔ ∃ before after, t = before ++ '\x1b' :: after ∧ ¬BeginsWithCode ('\x1b' :: after) ∧
      BeginsWithCode ('\x1b' :: strip after) := by
  constructor
  · rintro ⟨code, hcode, a, b, hleft⟩
    obtain ⟨body, rfl, -⟩ := hcode.exists_cons
    have hcut : strip t = a ++ '\x1b' :: (body ++ b) := by simp [← hleft]
    obtain ⟨before, after, rfl, hno, hafter⟩ := exists_of_strip_eq_append t a (body ++ b) '\x1b' hcut
    refine ⟨before, after, rfl, hno, _, hcode, ?_⟩
    rw [hafter]
    exact List.prefix_append ('\x1b' :: body) b
  · rintro ⟨before, after, rfl, hno, code, hcode, hfront⟩
    rw [strip_append_escape, strip_cons _ _ hno]
    exact ⟨code, hcode, hfront.isInfix.trans (List.suffix_append _ _).isInfix⟩

/-- Nothing but codes is taken out of a text, in one pass. Stripping what is left changes nothing exactly if no code
is in it; and a code is in it exactly if there is an escape in the text that begins no code there, but would begin
one if the codes behind it were taken out. -/
theorem strip_strip_eq_iff (t : Text) :
    Coloured (strip t) t ∧
    (strip (strip t) = strip t ↔ ¬HasCode (strip t)) ∧
    (HasCode (strip t) ↔ ∃ before after, t = before ++ '\x1b' :: after ∧ ¬BeginsWithCode ('\x1b' :: after) ∧
      BeginsWithCode ('\x1b' :: strip after)) :=
  ⟨coloured_strip t, strip_eq_self_iff (strip t), hasCode_strip_iff t⟩

/-- A code inside another one, logged by a script and printed without colours. -/
theorem not_strip_strip_nested :
    let t : Text := "\x1b[\x1b[0m0m".toList
    let run := (Desktop.ofWindows []).run ("sys.log(\"".toList ++ t ++ "\")".toList) none
    run.error = none ∧ run.transcriptText = t ∧
      (Console.Print.plain ⟨.output, run.transcriptText⟩).text = reset ∧ HasCode (strip t) ∧
      strip (strip t) ≠ strip t := by
  intro t run
  have hstrip : strip t = reset := by decide
  refine ⟨by decide +kernel, by decide +kernel, by decide +kernel, ?_, by decide⟩
  rw [hstrip]
  exact ⟨reset, isCode_of_mem reset (by decide), List.infix_rfl⟩

end DeskScript.Ansi
