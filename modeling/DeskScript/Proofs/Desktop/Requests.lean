import DeskScript.Proofs.Desktop.Brief
import DeskScript.Proofs.Desktop.Spelling
import DeskScript.Proofs.Script.Effects
import DeskScript.Proofs.Table
import Mathlib.Algebra.Group.Int.Defs

namespace DeskScript

/-- What is asked of a window, through whatever name or object it is reached. -/
structure Request where
  window : Nat
  action : Action
  arguments : List Value

namespace Request

def key (r : Request) : Value := r.arguments[0]?.getD .null

def value (r : Request) : Value := r.arguments[1]?.getD .null

end Request

namespace Desktop

/-- A request that fails leaves what it has stored by then. -/
def afterRequest (d : Desktop) (r : Request) : Desktop :=
  match d.perform r.window r.action r.arguments with
  | .ok (_, d') => d'
  | .error failure => failure.reached

def afterRequests (d : Desktop) (requests : List Request) : Desktop := requests.foldl afterRequest d

/-- The writes that the requests carry out, each under the key that it had when it was carried out. -/
def writesOf (d : Desktop) : List Request → List Write
  | [] => []
  | r :: requests => (d.write? r.window r.action r.arguments).toList ++ (d.afterRequest r).writesOf requests

variable (d : Desktop)

theorem afterRequest_of_ok {r : Request} {v : Value} {d' : Desktop}
    (h : d.perform r.window r.action r.arguments = .ok (v, d')) : d.afterRequest r = d' := by
  rw [afterRequest, h]

theorem afterRequest_of_error {r : Request} {failure : Failure Desktop}
    (h : d.perform r.window r.action r.arguments = .error failure) : d.afterRequest r = failure.reached := by
  rw [afterRequest, h]

@[simp] theorem afterRequests_append (requests more : List Request) :
    d.afterRequests (requests ++ more) = (d.afterRequests requests).afterRequests more :=
  List.foldl_append

/-- A property that actions keep, whether they fail or not, is kept by requests in a row. -/
theorem afterRequests_keep (I : Desktop → Prop)
    (hkeep : ∀ (d : Desktop) (n : Nat) (a : Action) (arguments : List Value) (v : Value) (d' : Desktop),
      d.perform n a arguments = .ok (v, d') → I d → I d')
    (hfills : ∀ d d' : Desktop, d.Fills d' → I d → I d') (requests : List Request) (hd : I d) :
    I (d.afterRequests requests) := by
  induction requests generalizing d with
  | nil => exact hd
  | cons r requests ih =>
    apply ih
    cases h : d.perform r.window r.action r.arguments with
    | error failure =>
      rw [d.afterRequest_of_error h]
      exact hfills d _ (d.fails _ _ _ _ h).fills hd
    | ok result =>
      rw [d.afterRequest_of_ok h]
      exact hkeep d _ _ _ _ _ h hd

theorem afterRequest_evolves (r : Request) :
    Desktop.Evolves (d.write? r.window r.action r.arguments).toList d (d.afterRequest r) := by
  cases h : d.perform r.window r.action r.arguments with
  | error failure =>
    have hfails := d.fails _ _ _ _ h
    rw [d.afterRequest_of_error h, write?_eq_none_of_fails hfails]
    exact hfails.fills.evolves
  | ok result =>
    rw [d.afterRequest_of_ok h]
    exact d.perform_evolves _ _ _ _ _ h

theorem afterRequests_evolves (requests : List Request) :
    Desktop.Evolves (d.writesOf requests) d (d.afterRequests requests) := by
  induction requests generalizing d with
  | nil => exact .of_windows_eq rfl
  | cons r requests ih => exact (d.afterRequest_evolves r).trans (ih (d.afterRequest r))

theorem afterRequests_replies (requests : List Request) :
    d.replies.toList <+: (d.afterRequests requests).replies.toList :=
  d.afterRequests_keep (fun d' => d.replies.toList <+: d'.replies.toList)
    (fun d' n a arguments v d'' h hd => hd.trans (d'.perform_replies n a arguments v d'' h))
    (fun _ _ h hd => h.replies ▸ hd) requests List.prefix_rfl

theorem size_replies_le {d d' : Desktop} (h : d.replies.toList <+: d'.replies.toList) :
    d.replies.size ≤ d'.replies.size := by
  simpa only [Journal.length_toList] using h.length_le

theorem fieldsOf_reply_eq {d d' : Desktop} (h : d.replies.toList <+: d'.replies.toList) {i : Nat}
    (hi : i < d.replies.size) : d'.fieldsOf (.reply i) = d.fieldsOf (.reply i) := by
  obtain ⟨more, hmore⟩ := h
  change (d'.replies.get? i).getD .empty = (d.replies.get? i).getD .empty
  rw [Journal.get?_eq, Journal.get?_eq, ← hmore, List.getElem?_append_left (by simpa using hi)]

@[simp] theorem fieldsOf_reply (fields : Fields) : (d.reply fields).2.fieldsOf (.reply d.replies.size) = fields := by
  change ((d.replies.push fields).get? d.replies.size).getD .empty = fields
  rw [Journal.get?_push, if_pos rfl]
  rfl

end Desktop

theorem Window.libraryOrDefault_eq_object (w : Window) (members : List (Text × Json))
    (h : w.library = .object members ∨ w.library = .null ∧ members = w.defaultLibrary) :
    w.libraryOrDefault = .object members := by
  unfold libraryOrDefault
  obtain hl | ⟨hl, rfl⟩ := h <;> rw [hl]

/-- Whatever becomes of a window, what is looked up in it is looked up in the same library. -/
theorem Window.Evolves.libraryOrDefault_eq {n : Nat} {writes : List Write} {w w' : Window} (h : w.Evolves n writes w') :
    w'.libraryOrDefault = w.libraryOrDefault := by
  obtain hl | ⟨hl, hl'⟩ := h.library
  · unfold libraryOrDefault
    rw [hl, h.defaultLibrary_eq]
  · unfold libraryOrDefault
    rw [hl, hl']

namespace Desktop

variable (d : Desktop)

theorem perform_find (n : Nat) (w : Window) (hw : d.windows[n]? = some w) (members : List (Text × Json))
    (hmembers : w.libraryOrDefault = .object members) (arguments : List Value) :
    let d' := d.setWindow n { w with library := .object members }
    d.perform n .find arguments =
      if d.canBeKey (arguments[0]?.getD .null) then
        .ok (.plain (entryUnder members (d.keyOf (arguments[0]?.getD .null))), d')
      else .error ⟨.longNumber, d'⟩ := by
  rw [perform_of_window hw]
  dsimp only
  rw [find, hmembers, keyFor]
  cases d.canBeKey (arguments[0]?.getD .null) <;> rfl

theorem perform_info (n : Nat) (w : Window) (hw : d.windows[n]? = some w) (arguments : List Value) :
    d.perform n .info arguments = .ok (d.reply (infoFields n w (arguments[0]?.getD .null))) :=
  perform_of_window hw .info arguments

theorem getElem?_setWindow (n m : Nat) (w : Window) (hn : n < d.windows.length) :
    (d.setWindow n w).windows[m]? = if n = m then some w else d.windows[m]? := by
  change (d.windows.set n w)[m]? = _
  rw [List.getElem?_set, if_pos hn]

/-- Only looking something up in it can give a window a library. -/
theorem library_of_setWindow (m n : Nat) (w₀ w₁ w w' : Window) (hw₀ : d.windows[m]? = some w₀)
    (hw : d.windows[n]? = some w) (hw' : (d.setWindow m w₁).windows[n]? = some w')
    (h : m = n → w₁.library = w₀.library) : w'.library = w.library := by
  rw [d.getElem?_setWindow _ _ _ (List.getElem?_eq_some_iff.1 hw₀).1] at hw'
  split at hw'
  · rename_i hmn
    subst hmn
    rw [← Option.some.inj hw', h rfl, Option.some.inj (hw₀.symm.trans hw)]
  · rw [Option.some.inj (hw'.symm.trans hw)]

theorem library_of_not_find (r : Request) (n : Nat) (hother : ¬(r.window = n ∧ r.action = .find)) (w w' : Window)
    (hw : d.windows[n]? = some w) (hw' : (d.afterRequest r).windows[n]? = some w') : w'.library = w.library := by
  obtain ⟨m, a, arguments⟩ := r
  have hfind : a = .find → m ≠ n := fun ha hm => hother ⟨hm, ha⟩
  cases h : d.perform m a arguments with
  | error failure =>
    rw [d.afterRequest_of_error h] at hw'
    cases d.fails m a arguments failure h with
    | noLibrary | readKey | notWritable => rw [Option.some.inj (hw'.symm.trans hw)]
    | findKey w₀ hw₀ => exact d.library_of_setWindow m n w₀ _ w w' hw₀ hw hw' fun hm => absurd hm (hfind rfl)
    | writeKey w₀ hw₀ => exact d.library_of_setWindow m n w₀ _ w w' hw₀ hw hw' fun _ => rfl
  | ok result =>
    rw [d.afterRequest_of_ok h] at hw'
    obtain ⟨v, d'⟩ := result
    cases d.performs m a arguments v d' h with
    | nothing | read => rw [Option.some.inj (hw'.symm.trans hw)]
    | info w₀ hw₀ v d' hreply =>
      rw [← congrArg Prod.snd hreply] at hw'
      rw [Option.some.inj (hw'.symm.trans hw)]
    | find w₀ hw₀ => exact d.library_of_setWindow m n w₀ _ w w' hw₀ hw hw' fun hm => absurd hm (hfind rfl)
    | write w₀ hw₀ fields hfields key value hkey hvalue hcan v d' hreply =>
      rw [← congrArg Prod.snd hreply] at hw'
      exact d.library_of_setWindow m n w₀ _ w w' hw₀ hw hw' fun _ => rfl

theorem afterRequest_find (r : Request) (w : Window) (hw : d.windows[r.window]? = some w)
    (members : List (Text × Json)) (hmembers : w.libraryOrDefault = .object members) (hr : r.action = .find) :
    d.afterRequest r = d.setWindow r.window { w with library := .object members } := by
  have h := d.perform_find r.window w hw members hmembers r.arguments
  rw [← hr] at h
  cases hcan : d.canBeKey (r.arguments[0]?.getD .null) with
  | false => exact d.afterRequest_of_error (h.trans (by rw [hcan]; rfl))
  | true => exact d.afterRequest_of_ok (h.trans (by rw [hcan]; rfl))

theorem library_afterRequest (r : Request) (n : Nat) (w : Window) (hw : d.windows[n]? = some w)
    (members : List (Text × Json)) (hmembers : w.libraryOrDefault = .object members) :
    ∃ w', (d.afterRequest r).windows[n]? = some w' ∧ w'.libraryOrDefault = .object members ∧
      w'.library = if r.window = n ∧ r.action = .find then .object members else w.library := by
  obtain ⟨w', hw', hevolves⟩ := (d.afterRequest_evolves r).windows n w hw
  refine ⟨w', hw', hevolves.libraryOrDefault_eq.trans hmembers, ?_⟩
  by_cases hfind : r.window = n ∧ r.action = .find
  · obtain ⟨rfl, haction⟩ := hfind
    rw [d.afterRequest_find r w hw members hmembers haction,
      d.getElem?_setWindow _ _ _ (List.getElem?_eq_some_iff.1 hw).1, if_pos rfl] at hw'
    rw [if_pos ⟨rfl, haction⟩, ← Option.some.inj hw']
  · rw [if_neg hfind]
    exact d.library_of_not_find r n hfind w w' hw hw'

theorem library_afterRequests (requests : List Request) (n : Nat) (w : Window) (hw : d.windows[n]? = some w)
    (members : List (Text × Json)) (hmembers : w.libraryOrDefault = .object members) :
    ∃ w', (d.afterRequests requests).windows[n]? = some w' ∧ w'.libraryOrDefault = .object members ∧
      w'.library = if ∃ r ∈ requests, r.window = n ∧ r.action = .find then .object members else w.library := by
  induction requests generalizing d w with
  | nil => exact ⟨w, hw, hmembers, by simp⟩
  | cons r requests ih =>
    obtain ⟨w₁, hw₁, hmembers₁, hlibrary₁⟩ := d.library_afterRequest r n w hw members hmembers
    obtain ⟨w', hw', hmembers', hlibrary'⟩ := ih (d.afterRequest r) w₁ hw₁ hmembers₁
    refine ⟨w', hw', hmembers', ?_⟩
    rw [hlibrary', hlibrary₁]
    simp only [List.exists_mem_cons_iff]
    split
    · rw [if_pos (.inr ‹_›)]
    · rename_i hnone
      simp only [hnone, or_false]

theorem get?_infoFields (n : Nat) (w : Window) (given : Value) :
    (infoFields n w given).get? (.text "library".toList) = some (.plain w.libraryOrDefault) ∧
      (infoFields n w given).get? (.text "libary".toList) = some (.plain w.libraryOrDefault) ∧
      (infoFields n w given).get? (.text "data".toList) = some (if given.isEmpty then dataValue n w else given) := by
  have hkeys : List.Pairwise (fun k l : Key => compare k l ≠ .eq) [.text "id".toList, .text "title".toList,
      .text "appType".toList, .text "library".toList, .text "libary".toList, .text "data".toList] := by
    decide +kernel
  have hget := Table.get?_ofList_of_mem (κ := Key) (α := Value) [(.text "id".toList, .text w.id),
    (.text "title".toList, .plain w.title), (.text "appType".toList, .plain w.appType),
    (.text "library".toList, .plain w.libraryOrDefault), (.text "libary".toList, .plain w.libraryOrDefault),
    (.text "data".toList, if given.isEmpty then dataValue n w else given)] hkeys
  refine ⟨?_, ?_, ?_⟩
  · exact hget (.text "library".toList, .plain w.libraryOrDefault) (by simp)
  · exact hget (.text "libary".toList, .plain w.libraryOrDefault) (by simp)
  · exact hget (.text "data".toList, if given.isEmpty then dataValue n w else given) (by simp)

theorem Brief.afterRequests {d : Desktop} (hd : d.Brief) (requests : List Request)
    (hrequests : ∀ r ∈ requests, ∀ v ∈ r.arguments, v.Brief) : (d.afterRequests requests).Brief := by
  induction requests generalizing d with
  | nil => exact hd
  | cons r requests ih =>
    refine ih ?_ fun r' hr' => hrequests r' (List.mem_cons_of_mem _ hr')
    cases h : d.perform r.window r.action r.arguments with
    | error failure =>
      rw [d.afterRequest_of_error h]
      exact hd.fills (d.fails _ _ _ _ h).fills
    | ok result =>
      rw [d.afterRequest_of_ok h]
      exact (hd.perform _ _ _ (hrequests r List.mem_cons_self) result.1 h).2

end Desktop

end DeskScript
