import DeskScript.Desktop.Basic
import DeskScript.Desktop.Resolution
import DeskScript.Proofs.Except
import DeskScript.Proofs.Text.Blank

namespace DeskScript

def Window.IsTitled (w : Window) : Prop := ∃ t, w.title = .text t

/-- A window of the product has a text for its title, and that text or its type says so. -/
def Window.IsProduct (w : Window) : Prop :=
  ∃ t, w.title = .text t ∧ (Desktop.productName <:+: t.lower ∨ w.appType = .text Desktop.productName)

theorem Window.IsProduct.isTitled {w : Window} (h : w.IsProduct) : w.IsTitled := by
  obtain ⟨t, ht, -⟩ := h
  exact ⟨t, ht⟩

theorem mem_or_eq_or_mem_of_append_cons_eq {α : Type} {a b a' b' : List α} {x x' : α}
    (h : a ++ x :: b = a' ++ x' :: b') : x' ∈ a ∨ (a = a' ∧ x = x') ∨ x ∈ a' := by
  obtain ⟨u, rfl, hu⟩ | ⟨u, rfl, hu⟩ := List.append_eq_append_iff.1 h
  · cases u with
    | nil =>
      obtain ⟨rfl, -⟩ := List.cons.inj hu
      exact .inr (.inl ⟨(List.append_nil a).symm, rfl⟩)
    | cons y u =>
      obtain ⟨rfl, -⟩ := List.cons.inj hu
      exact .inr (.inr (List.mem_append_right _ (List.mem_cons_self ..)))
  · cases u with
    | nil =>
      obtain ⟨rfl, -⟩ := List.cons.inj hu
      exact .inr (.inl ⟨List.append_nil a', rfl⟩)
    | cons y u =>
      obtain ⟨rfl, -⟩ := List.cons.inj hu
      exact .inl (List.mem_append_right _ (List.mem_cons_self ..))

namespace Desktop

/-- The windows in front of the first one at which `P` holds. -/
def FirstAfter (P : Window → Prop) (ws before : List Window) : Prop :=
  (∀ u ∈ before, ¬P u) ∧ ∃ w after, ws = before ++ w :: after ∧ P w

/-- The patterns that mean the first window whatever the windows are. -/
def fixedNames : List Text := ["window-1".toList, "window-11".toList]

/-- The rules by which a pattern names the window at a place. Each applies only where no rule before it does. -/
inductive Names (ws : List Window) (pattern : Text) : Nat → Prop where
  | fixed (h : pattern ∈ fixedNames) (hne : ws ≠ []) : Names ws pattern 0
  | id (before : List Window) (h : pattern ∉ fixedNames) (hid : FirstAfter (fun w => w.id = pattern) ws before) :
      Names ws pattern before.length
  | product (before : List Window) (h : pattern ∉ fixedNames) (hid : ∀ w ∈ ws, w.id ≠ pattern)
      (hproduct : FirstAfter Window.IsProduct ws before) : Names ws pattern before.length
  | first (h : pattern ∉ fixedNames) (hid : ∀ w ∈ ws, w.id ≠ pattern) (hproduct : ∀ w ∈ ws, ¬w.IsProduct)
      (hne : ws ≠ []) : Names ws pattern 0

/-- A window whose title is no text has no product window in front of it. -/
def Untitled (ws : List Window) : Prop :=
  ∃ before w after, ws = before ++ w :: after ∧ ¬w.IsTitled ∧ ∀ u ∈ before, ¬u.IsProduct

def Stumbles (ws : List Window) (pattern : Text) : Prop :=
  pattern ∉ fixedNames ∧ (∀ w ∈ ws, w.id ≠ pattern) ∧ Untitled ws

namespace FirstAfter

variable {P : Window → Prop} {ws before before' : List Window}

theorem exists_mem (h : FirstAfter P ws before) : ∃ w ∈ ws, P w := by
  obtain ⟨-, w, after, rfl, hw⟩ := h
  exact ⟨w, List.mem_append_right _ (List.mem_cons_self ..), hw⟩

theorem length_lt (h : FirstAfter P ws before) : before.length < ws.length := by
  obtain ⟨-, w, after, rfl, -⟩ := h
  simp

theorem unique (h : FirstAfter P ws before) (h' : FirstAfter P ws before') : before = before' := by
  obtain ⟨hbefore, w, after, rfl, hw⟩ := h
  obtain ⟨hbefore', w', after', heq, hw'⟩ := h'
  obtain hmem | ⟨rfl, -⟩ | hmem := mem_or_eq_or_mem_of_append_cons_eq heq
  · exact absurd hw' (hbefore w' hmem)
  · rfl
  · exact absurd hw (hbefore' w hmem)

end FirstAfter

theorem FirstAfter.of_find? (p : Window → Bool) (ws : List Window) (w : Window) (h : ws.find? p = some w) :
    ∃ before, FirstAfter (fun w => p w = true) ws before ∧ ws[before.length]? = some w := by
  obtain ⟨hw, before, after, rfl, hbefore⟩ := List.find?_eq_some_iff_append.1 h
  refine ⟨before, ⟨fun u hu => ?_, w, after, rfl, hw⟩, by simp⟩
  simpa using hbefore u hu

theorem FirstAfter.of_findIdx? (p : Window → Bool) (ws : List Window) (n : Nat) (h : ws.findIdx? p = some n) :
    FirstAfter (fun w => p w = true) ws (ws.take n) ∧ (ws.take n).length = n := by
  obtain ⟨hn, hw, hbefore⟩ := List.findIdx?_eq_some_iff_getElem.1 h
  refine ⟨⟨fun u hu => ?_, ws[n], ws.drop (n + 1), by simp, hw⟩, List.length_take_of_le hn.le⟩
  obtain ⟨m, hm, rfl⟩ := List.mem_take_iff_getElem.1 hu
  exact hbefore m (by omega)

theorem Names.lt_length {ws : List Window} {pattern : Text} {n : Nat} (h : Names ws pattern n) : n < ws.length := by
  cases h with
  | fixed _ hne | first _ _ _ hne => exact List.length_pos_of_ne_nil hne
  | id before _ hid => exact hid.length_lt
  | product before _ _ hproduct => exact hproduct.length_lt

theorem Names.unique {ws : List Window} {pattern : Text} {m n : Nat} (hm : Names ws pattern m)
    (hn : Names ws pattern n) : m = n := by
  -- Each rule says that no rule before it applies, so two different ones exclude each other.
  cases hm with
  | fixed h =>
    cases hn with
    | fixed => rfl
    | id _ h' | product _ h' | first h' => exact absurd h h'
  | id before h hid =>
    cases hn with
    | fixed h' => exact absurd h' h
    | id before' _ hid' => rw [hid.unique hid']
    | product _ _ hnone | first _ hnone =>
      obtain ⟨w, hw, he⟩ := hid.exists_mem
      exact absurd he (hnone w hw)
  | product before h hnone hproduct =>
    cases hn with
    | fixed h' => exact absurd h' h
    | id _ _ hid =>
      obtain ⟨w, hw, he⟩ := hid.exists_mem
      exact absurd he (hnone w hw)
    | product before' _ _ hproduct' => rw [hproduct.unique hproduct']
    | first _ _ hno =>
      obtain ⟨w, hw, hp⟩ := hproduct.exists_mem
      exact absurd hp (hno w hw)
  | first h hnone hno =>
    cases hn with
    | fixed h' => exact absurd h' h
    | id _ _ hid =>
      obtain ⟨w, hw, he⟩ := hid.exists_mem
      exact absurd he (hnone w hw)
    | product _ _ _ hproduct =>
      obtain ⟨w, hw, hp⟩ := hproduct.exists_mem
      exact absurd hp (hno w hw)
    | first => rfl

theorem namesFirst_iff (pattern : Text) : namesFirst pattern = true ↔ pattern ∈ fixedNames := by
  have hone : "window-1".toList = "window-".toList ++ "1".toList := by decide
  have heleven : "window-11".toList = "window-".toList ++ "11".toList := by decide
  -- Both fixed names begin alike, and what follows tells them from others.
  rw [namesFirst, fixedNames, hone, heleven]
  cases h : Text.afterPrefix? "window-".toList pattern with
  | some rest =>
    rw [(Text.afterPrefix?_eq_some_iff _ _ _).1 h]
    simp
  | none =>
    have hnot : ∀ rest, pattern ≠ "window-".toList ++ rest := by
      intro rest he
      rw [(Text.afterPrefix?_eq_some_iff _ _ _).2 he] at h
      cases h
    rw [List.mem_cons, List.mem_singleton]
    exact ⟨nofun, fun hpattern => hpattern.elim (fun he => absurd he (hnot _)) fun he => absurd he (hnot _)⟩

theorem isProduct_cases (w : Window) :
    (¬w.IsTitled ∧ isProduct w = .error (.titleNotText w.title.kind)) ∨
      w.IsTitled ∧ ((w.IsProduct ∧ isProduct w = .ok true) ∨ (¬w.IsProduct ∧ isProduct w = .ok false)) := by
  have htype : w.appType.isText productName = true ↔ w.appType = .text productName := by
    cases w.appType <;> simp [Json.isText]
  cases ht : w.title with
  | text t =>
    have hproduct : w.IsProduct ↔ (Text.contains productName t.lower || w.appType.isText productName) = true := by
      rw [Bool.or_eq_true, Text.contains_iff_isInfix, htype]
      constructor
      · rintro ⟨u, hu, h⟩
        rw [ht] at hu
        cases hu
        exact h
      · exact fun h => ⟨t, ht, h⟩
    refine .inr ⟨⟨t, ht⟩, ?_⟩
    rw [isProduct, ht, hproduct]
    dsimp only
    cases Text.contains productName t.lower || w.appType.isText productName
    · exact .inr ⟨Bool.false_ne_true, rfl⟩
    · exact .inl ⟨rfl, rfl⟩
  | _ => exact .inl ⟨by simp [Window.IsTitled, ht], by simp [isProduct, ht]⟩

/-- The search for the product ends at its first window, at a title that is no text, or behind all windows. -/
theorem findProduct_cases (ws : List Window) :
    (∃ before, FirstAfter Window.IsProduct ws before ∧ (∀ u ∈ before, u.IsTitled) ∧
        findProduct ws = .ok (some before.length)) ∨
      (Untitled ws ∧ ∃ kind, findProduct ws = .error (.titleNotText kind)) ∨
      (∀ w ∈ ws, w.IsTitled ∧ ¬w.IsProduct) ∧ findProduct ws = .ok none := by
  induction ws with
  | nil => exact .inr (.inr ⟨nofun, rfl⟩)
  | cons w ws ih =>
    obtain ⟨huntitled, hw⟩ | ⟨htitled, ⟨hproduct, hw⟩ | ⟨hproduct, hw⟩⟩ := isProduct_cases w
    · exact .inr (.inl ⟨⟨[], w, ws, rfl, huntitled, nofun⟩, w.title.kind, by rw [findProduct, hw]⟩)
    · exact .inl ⟨[], ⟨nofun, w, ws, rfl, hproduct⟩, nofun, by rw [findProduct, hw]; rfl⟩
    · have hrest : findProduct (w :: ws) = (findProduct ws).map fun found => found.map (· + 1) := by
        rw [findProduct, hw]
      obtain ⟨before, ⟨hno, u, after, rfl, hu⟩, hbefore, hfound⟩ |
        ⟨⟨before, u, after, rfl, hu, hno⟩, kind, hfound⟩ | ⟨hall, hfound⟩ := ih
      · refine .inl ⟨w :: before, ⟨?_, u, after, rfl, hu⟩, ?_, by rw [hrest, hfound]; rfl⟩
        · exact List.forall_mem_cons.2 ⟨hproduct, hno⟩
        · exact List.forall_mem_cons.2 ⟨htitled, hbefore⟩
      · refine .inr (.inl ⟨⟨w :: before, u, after, rfl, hu, ?_⟩, kind, by rw [hrest, hfound]; rfl⟩)
        exact List.forall_mem_cons.2 ⟨hproduct, hno⟩
      · refine .inr (.inr ⟨?_, by rw [hrest, hfound]; rfl⟩)
        exact List.forall_mem_cons.2 ⟨⟨htitled, hproduct⟩, hall⟩

theorem FirstAfter.not_untitled {ws before : List Window} (h : FirstAfter Window.IsProduct ws before)
    (hbefore : ∀ u ∈ before, u.IsTitled) : ¬Untitled ws := by
  obtain ⟨-, w, after, rfl, hw⟩ := h
  rintro ⟨before', w', after', heq, hw', hbefore'⟩
  obtain hmem | ⟨rfl, rfl⟩ | hmem := mem_or_eq_or_mem_of_append_cons_eq heq
  · exact hw' (hbefore w' hmem)
  · exact hw' hw.isTitled
  · exact hbefore' w hmem hw

theorem not_untitled_of_forall {ws : List Window} (h : ∀ w ∈ ws, w.IsTitled) : ¬Untitled ws := by
  rintro ⟨before, w, after, rfl, hw, -⟩
  exact hw (h w (List.mem_append_right _ (List.mem_cons_self ..)))

theorem resolve_cases (ws : List Window) (pattern : Text) :
    (Stumbles ws pattern ∧ ∃ kind, resolve ws pattern = .error (.titleNotText kind)) ∨
      ¬Stumbles ws pattern ∧
        (ws = [] ∧ resolve ws pattern = .ok none ∨ ∃ n, Names ws pattern n ∧ resolve ws pattern = .ok (some n)) := by
  -- The rules in their order: a fixed name, an id, the product, and the first window for want of these.
  by_cases hfixed : pattern ∈ fixedNames
  · have hfirst : resolve ws pattern = .ok (if ws.isEmpty then none else some 0) := by
      rw [resolve, (namesFirst_iff pattern).2 hfixed, if_pos rfl]
    refine .inr ⟨fun h => h.1 hfixed, ?_⟩
    cases ws with
    | nil => exact .inl ⟨rfl, hfirst⟩
    | cons w ws => exact .inr ⟨0, .fixed hfixed (List.cons_ne_nil _ _), hfirst⟩
  · have hno : namesFirst pattern = false := by rw [← Bool.not_eq_true, namesFirst_iff]; exact hfixed
    cases hid : ws.findIdx? fun w => w.id == pattern with
    | some n =>
      have hresolve : resolve ws pattern = .ok (some n) := by
        rw [resolve, hno, if_neg Bool.false_ne_true, hid]
      obtain ⟨hfirst, hlength⟩ := FirstAfter.of_findIdx? _ _ _ hid
      have hnamed : FirstAfter (fun w => w.id = pattern) ws (ws.take n) := by simpa using hfirst
      obtain ⟨u, hu, hpattern⟩ := hnamed.exists_mem
      have hnames : Names ws pattern n := hlength ▸ .id (ws.take n) hfixed hnamed
      exact .inr ⟨fun h => h.2.1 u hu hpattern, .inr ⟨n, hnames, hresolve⟩⟩
    | none =>
      have hids : ∀ w ∈ ws, w.id ≠ pattern := by simpa using hid
      have hresolve : resolve ws pattern =
          (findProduct ws).map fun found => found.or (if ws.isEmpty then none else some 0) := by
        rw [resolve, hno, if_neg Bool.false_ne_true, hid]
      obtain ⟨before, hproduct, hbefore, hfound⟩ | ⟨huntitled, kind, hfound⟩ | ⟨hall, hfound⟩ := findProduct_cases ws
      · refine .inr ⟨fun h => hproduct.not_untitled hbefore h.2.2, .inr ⟨before.length, ?_, ?_⟩⟩
        · exact .product before hfixed hids hproduct
        · rw [hresolve, hfound]
          rfl
      · exact .inl ⟨⟨hfixed, hids, huntitled⟩, kind, by rw [hresolve, hfound]; rfl⟩
      · refine .inr ⟨fun h => not_untitled_of_forall (fun w hw => (hall w hw).1) h.2.2, ?_⟩
        rw [hresolve, hfound]
        cases ws with
        | nil => exact .inl ⟨rfl, rfl⟩
        | cons w ws => exact .inr ⟨0, .first hfixed hids (fun u hu => (hall u hu).2) (List.cons_ne_nil _ _), rfl⟩

theorem resolve_eq_some_iff (ws : List Window) (pattern : Text) (n : Nat) :
    resolve ws pattern = .ok (some n) ↔ Names ws pattern n ∧ ¬Stumbles ws pattern := by
  obtain ⟨hs, kind, he⟩ | ⟨hs, ⟨rfl, he⟩ | ⟨m, hm, he⟩⟩ := resolve_cases ws pattern <;> rw [he]
  · exact ⟨nofun, fun h => absurd hs h.2⟩
  · exact ⟨nofun, fun h => absurd h.1.lt_length (Nat.not_lt_zero n)⟩
  · refine ⟨fun h => ?_, fun h => by rw [hm.unique h.1]⟩
    cases h
    exact ⟨hm, hs⟩

theorem resolve_eq_none_iff (ws : List Window) (pattern : Text) : resolve ws pattern = .ok none ↔ ws = [] := by
  obtain ⟨⟨-, -, before, w, after, rfl, -⟩, kind, he⟩ | ⟨-, ⟨rfl, he⟩ | ⟨n, hn, he⟩⟩ := resolve_cases ws pattern <;>
    rw [he]
  · exact ⟨nofun, fun h => absurd h (by simp)⟩
  · exact ⟨fun _ => rfl, fun _ => rfl⟩
  · refine ⟨nofun, fun h => ?_⟩
    rw [h] at hn
    exact absurd hn.lt_length (Nat.not_lt_zero n)

theorem exists_resolve_eq_error_iff (ws : List Window) (pattern : Text) :
    (∃ e, resolve ws pattern = .error e) ↔ Stumbles ws pattern := by
  obtain ⟨hs, kind, he⟩ | ⟨hs, ⟨-, he⟩ | ⟨n, -, he⟩⟩ := resolve_cases ws pattern <;> rw [he]
  · exact ⟨fun _ => hs, fun _ => ⟨_, rfl⟩⟩
  · exact ⟨(fun ⟨_, h⟩ => nomatch h), fun h => absurd h hs⟩
  · exact ⟨(fun ⟨_, h⟩ => nomatch h), fun h => absurd h hs⟩

theorem exists_kind_of_resolve (ws : List Window) (pattern : Text) (e : ScriptError)
    (h : resolve ws pattern = .error e) : ∃ kind, e = .titleNotText kind := by
  obtain ⟨-, kind, he⟩ | ⟨-, ⟨-, he⟩ | ⟨n, -, he⟩⟩ := resolve_cases ws pattern <;> rw [he] at h <;> cases h
  exact ⟨kind, rfl⟩

/-- Where all titles are texts, a pattern names just one window, if there is any. What has the pattern for its id comes
before all but the fixed names. Other titles are an error if the search for the product comes to one of them. -/
theorem resolve_names (d : Desktop) (pattern : Text) :
    ((∀ w ∈ d.windows, w.IsTitled) →
      (resolve d.windows pattern = .ok none ↔ d.windows = []) ∧
        (d.windows ≠ [] → ∃ n, resolve d.windows pattern = .ok (some n) ∧ ∀ m, Names d.windows pattern m ↔ m = n)) ∧
    (∀ w, d.windowWithId? pattern = some w → pattern ∉ fixedNames →
      ∃ before, FirstAfter (fun w => w.id = pattern) d.windows before ∧ d.windows[before.length]? = some w ∧
        resolve d.windows pattern = .ok (some before.length)) ∧
    (∀ e, resolve d.windows pattern = .error e → e.className = "AttributeError".toList) ∧
    ((∃ e, resolve d.windows pattern = .error e) ↔ Stumbles d.windows pattern) := by
  refine ⟨fun htitled => ⟨resolve_eq_none_iff _ _, fun hne => ?_⟩, fun w hw hfixed => ?_, fun e he => ?_,
    exists_resolve_eq_error_iff _ _⟩
  · have hno : ¬Stumbles d.windows pattern := fun h => not_untitled_of_forall htitled h.2.2
    obtain ⟨h, -⟩ | ⟨-, ⟨hempty, -⟩ | ⟨n, hn, hresolve⟩⟩ := resolve_cases d.windows pattern
    · exact absurd h hno
    · exact absurd hempty hne
    · exact ⟨n, hresolve, fun m => ⟨fun hm => hm.unique hn, fun hm => hm ▸ hn⟩⟩
  · obtain ⟨before, hfirst, hget⟩ := FirstAfter.of_find? _ _ w hw
    have hid : FirstAfter (fun w => w.id = pattern) d.windows before := by simpa using hfirst
    obtain ⟨u, hu, hpattern⟩ := hid.exists_mem
    have hno : ¬Stumbles d.windows pattern := fun h => h.2.1 u hu hpattern
    exact ⟨before, hid, hget, (resolve_eq_some_iff _ _ _).2 ⟨.id before hfixed hid, hno⟩⟩
  · obtain ⟨kind, rfl⟩ := exists_kind_of_resolve _ _ _ he
    rfl

/-- The second window belongs to the product and has a fixed name for its id, which means the first one all the same. -/
theorem resolve_names_product :
    let window : Text → Text → Window := fun id title =>
      ⟨id, .text title, .text [], .null, .null, .null, .null, .null, .null, .null, .absent, .null⟩
    let d : Desktop := .ofWindows [window ['a'] "Notes".toList, window "window-1".toList "My VsStudio".toList]
    (∀ w ∈ d.windows, w.IsTitled) ∧ (∀ m, Names d.windows ['b'] m ↔ m = 1) ∧
      (∀ m, Names d.windows "window-1".toList m ↔ m = 0) ∧
      FirstAfter (fun w => w.id = ['a']) d.windows [] := by
  intro window d
  have htitled : ∀ w ∈ d.windows, w.IsTitled := by
    intro w hw
    obtain rfl | rfl : w = window ['a'] "Notes".toList ∨ w = window "window-1".toList "My VsStudio".toList := by
      simpa [d, ofWindows] using hw
    · exact ⟨_, rfl⟩
    · exact ⟨_, rfl⟩
  have hne : d.windows ≠ [] := List.cons_ne_nil _ _
  have hproduct : resolve d.windows ['b'] = .ok (some 1) := by decide +kernel
  have hfixed : resolve d.windows "window-1".toList = .ok (some 0) := by decide +kernel
  have hid : resolve d.windows ['a'] = .ok (some 0) := by decide +kernel
  obtain ⟨n, hn, hnames⟩ := ((resolve_names d ['b']).1 htitled).2 hne
  obtain ⟨n', hn', hnames'⟩ := ((resolve_names d "window-1".toList).1 htitled).2 hne
  obtain ⟨before, hfirst, -, hbefore⟩ := (resolve_names d ['a']).2.1 (window ['a'] "Notes".toList) rfl (by decide)
  rw [hproduct] at hn
  rw [hfixed] at hn'
  rw [hid] at hbefore
  cases hn
  cases hn'
  have hempty : before = [] := List.length_eq_zero_iff.1 (Option.some.inj (Except.ok.inj hbefore)).symm
  exact ⟨htitled, hnames, hnames', hempty ▸ hfirst⟩

/-- The type of the first window is the product's, but its title is a number. -/
example :
    let w : Window :=
      ⟨['a'], .int 1, .text productName, .null, .null, .null, .null, .null, .null, .null, .absent, .null⟩
    resolve [w] ['b'] = .error (.titleNotText "int".toList) := by decide +kernel

end Desktop

end DeskScript
