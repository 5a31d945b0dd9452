import DeskScript.Proofs.Desktop.References
import DeskScript.Proofs.Desktop.Requests
import DeskScript.Window.Members

namespace DeskScript

@[simp] theorem Json.orElse_orElse (j fallback : Json) : (j.orElse fallback).orElse fallback = j.orElse fallback := by
  cases hvoid : j.isVoid <;> simp [orElse, hvoid]

theorem Data.toData_toMember? (data : Data) :
    (match data.toMember? with | some m => m.toData | none => .absent) = data ↔ data ≠ .fixed .null := by
  cases data with
  | absent => exact ⟨fun _ => nofun, fun _ => rfl⟩
  | live fields => exact ⟨fun _ => nofun, fun _ => rfl⟩
  | fixed j =>
    cases j with
    | null => exact ⟨nofun, fun h => absurd rfl h⟩
    | _ => exact ⟨fun _ => nofun, fun _ => rfl⟩

namespace Window

/-- A window as reading leaves it: void titles and classes are empty texts, and data is missing if it is null. -/
structure IsRead (w : Window) : Prop where
  title : w.title.orElse (.text []) = w.title
  appType : w.appType.orElse (.text []) = w.appType
  data : w.data ≠ .fixed .null

@[simp] theorem lookup_data_toMembers (w : Window) : w.toMembers.lookup "data".toList = w.data.toMember? := by
  rw [toMembers, List.append_assoc, List.lookup_append]
  cases w.data.toMember? with
  | none => cases w.library <;> rfl
  | some m => rfl

@[simp] theorem get_library_toMembers (w : Window) : Members.get w.toMembers "library" .null = w.library := by
  rw [Members.get, toMembers, List.lookup_append]
  cases w.data.toMember? <;> cases w.library <;> rfl

theorem ofMembers_toMembers (w : Window) :
    ofMembers w.toMembers = .ok { w with
      title := w.title.orElse (.text [])
      appType := w.appType.orElse (.text [])
      data := match w.data.toMember? with
        | some m => m.toData
        | none => .absent } := by
  -- The other members stand in front of these two, where the search for them only goes through names.
  simp only [ofMembers, lookup_data_toMembers, get_library_toMembers]
  rfl

/-- A window is read back from its members exactly if it is as reading leaves it. -/
theorem ofMembers_toMembers_iff (w : Window) : ofMembers w.toMembers = .ok w ↔ w.IsRead := by
  rw [ofMembers_toMembers, Except.ok.injEq]
  constructor
  · intro h
    exact ⟨congrArg title h, congrArg appType h, w.data.toData_toMember?.1 (congrArg data h)⟩
  · rintro ⟨htitle, hclass, hdata⟩
    rw [htitle, hclass, w.data.toData_toMember?.2 hdata]

theorem isRead_of_ofMembers (ms : Members) (w : Window) (h : ofMembers ms = .ok w) : w.IsRead := by
  obtain ⟨_, _, _, -, -, rfl⟩ := exists_parts_of_ofMembers ms w h
  refine ⟨Json.orElse_orElse _ _, Json.orElse_orElse _ _, ?_⟩
  dsimp only
  cases ms.lookup "data".toList with
  | none => nofun
  | some m =>
    cases m with
    | plain j => cases j <;> nofun
    | table fields => nofun

theorem isRead_of_ofJson (j : Json) (w : Window) (h : ofJson j = .ok w) : w.IsRead := by
  cases j with
  | object members => exact isRead_of_ofMembers _ w h
  | _ => cases h

/-- Nothing that is written to a window, and no library that it is given, undoes what reading has done. -/
theorem Evolves.isRead {n : Nat} {writes : List Write} {w w' : Window} (h : w.Evolves n writes w')
    (hw : w.IsRead) : w'.IsRead where
  title := by
    rw [h.others]
    exact hw.title
  appType := by
    rw [h.others]
    exact hw.appType
  data := by
    obtain hdata | ⟨-, hdata⟩ := h.data
    · rw [hdata]
      cases hold : w.data with
      | absent => cases Write.onto n writes <;> rintro ⟨⟩
      | live fields => rintro ⟨⟩
      | fixed j =>
        rw [Data.putAll, ← hold]
        exact hw.data
    · rw [hdata]
      rintro ⟨⟩

/-- A window that was read is written to members that give it back when they are read again, and what they give is
written to the same members in the same order. It stays so whatever has been asked of it, and of the windows beside it,
whether that has failed or not. -/
theorem ofMembers_toMembers_of_ofJson (j : Json) (w : Window) (h : ofJson j = .ok w) :
    (ofMembers w.toMembers = .ok w ∧ (ofMembers w.toMembers).map toMembers = .ok w.toMembers) ∧
    ∀ (d : Desktop) (n : Nat) (requests : List Request), d.windows[n]? = some w →
      ∃ w', (d.afterRequests requests).windows[n]? = some w' ∧
        ofMembers w'.toMembers = .ok w' ∧ (ofMembers w'.toMembers).map toMembers = .ok w'.toMembers := by
  have hback : ∀ w : Window, w.IsRead →
      ofMembers w.toMembers = .ok w ∧ (ofMembers w.toMembers).map toMembers = .ok w.toMembers := by
    intro w hw
    have hread := w.ofMembers_toMembers_iff.2 hw
    exact ⟨hread, by rw [hread, Except.map]⟩
  have hwindow := isRead_of_ofJson j w h
  refine ⟨hback w hwindow, fun d n requests hw => ?_⟩
  obtain ⟨w', hw', hevolves⟩ := (d.afterRequests_evolves requests).windows n w hw
  exact ⟨w', hw', hback w' (hevolves.isRead hwindow)⟩

/-- A window with a title that is no text, without data and library, in which something is looked up and to which
something is written. -/
theorem ofMembers_toMembers_of_ofJson_untitled :
    let j : Json := .object [("id".toList, .int 5), ("title".toList, .bool false), ("zIndex".toList, .null)]
    let w : Window := ⟨['5'], .text [], .text [], .int 0, .int 0, .int 0, .int 0, .null, .bool false, .bool false,
      .absent, .null⟩
    let requests : List Request := [⟨0, .find, [.null]⟩, ⟨0, .write, [.text ['k'], .window 0]⟩]
    ofJson j = .ok w ∧ ∃ w', ((Desktop.ofWindows [w]).afterRequests requests).windows[0]? = some w' ∧
      w'.toMembers.map Prod.fst = w.toMembers.map Prod.fst ++ ["data".toList, "library".toList] ∧
      ofMembers w'.toMembers = .ok w' := by
  intro j w requests
  have hread : ofJson j = .ok w := rfl
  obtain ⟨-, hafter⟩ := ofMembers_toMembers_of_ofJson j w hread
  obtain ⟨w', hw', hback, -⟩ := hafter (.ofWindows [w]) 0 requests rfl
  refine ⟨hread, w', hw', ?_, hback⟩
  obtain rfl := Option.some.inj hw'
  rfl

end Window

end DeskScript
