import ItemGateway.Proofs.JoinedRows
import ItemGateway.Proofs.LastValues

namespace ItemGateway

variable {σ : Type} {items : Std.TreeMap String Binding} {item : String}

namespace Gateway

variable {g : Gateway σ} {reading : Reading}

theorem refreshItem_of_yields (h : g.Yields item reading) :
    (g.refreshItem item).1 =
      .ok (if g.lastValue? item = some reading.value? then none else some ⟨item, reading.value?⟩) := by
  obtain ⟨address, s, hb, hs, rfl⟩ := h
  rw [refreshItem_of_ok hb (Prod.ext hs rfl), observe_fst]
  rfl

end Gateway

theorem latest?_append_of_none {new deeds : List Deed} (h : ∀ d ∈ new, d.value? items item = none) :
    latest? items item (new ++ deeds) = latest? items item deeds := by
  rw [latest?, List.findSome?_append, List.findSome?_eq_none_iff.mpr h, Option.none_or]
  rfl

theorem latest?_refreshItem {c : Chronicle σ} {reading : Reading} (h : c.gateway.Yields item reading) :
    latest? items item (c.perform (.refreshItem item)).deeds = some reading.value? := by
  change latest? items item (c.gateway.reads item ++ c.deeds) = _
  rw [Gateway.reads_of_yields h, List.singleton_append, latest?_cons, Deed.value?, if_pos rfl, Option.some_or]

theorem Chronicle.Faithful.answer {c c' : Chronicle σ} {new : List Deed} {reading reading' : Reading}
    (hf : c'.Faithful items) (h : c.gateway.Yields item reading) (h' : c'.gateway.Yields item reading')
    (hd : c'.deeds = new ++ (c.perform (.refreshItem item)).deeds)
    (hn : ∀ d ∈ new, d.value? items item = none) :
    (c'.gateway.refreshItem item).1 =
      .ok (if reading.value? = reading'.value? then none else some ⟨item, reading'.value?⟩) := by
  have hl : c'.gateway.lastValue? item = some reading.value? := by
    rw [hf.last, hd, latest?_append_of_none hn]
    exact latest?_refreshItem h
  rw [Gateway.refreshItem_of_yields h', hl]
  simp only [Option.some.injEq]

/-- Rows that differ in a cell are told apart unless a cell runs over, which needs an ampersand in it. -/
theorem row_change_reported (pool : Pool σ) (items : Std.TreeMap String Binding) (interval : ℕ)
    (calls between : List (Call σ)) (item : String) :
    let c := Chronicle.run pool items interval calls
    let c₁ := c.perform (.refreshItem item)
    let c₂ := between.foldl Chronicle.perform c₁
    c.perform .refresh = (c.gateway.names.map Call.refreshItem).foldl Chronicle.perform c ∧
      ∀ (cells cells' : List (String × String)) (new : List Deed),
        c.gateway.Yields item (.row cells) → c₂.gateway.Yields item (.row cells') →
        c₂.deeds = new ++ c₁.deeds → (∀ d ∈ new, d.value? items item = none) →
        cells.map Prod.fst = cells'.map Prod.fst →
        let answer := (c₂.gateway.refreshItem item).1
        let change : Change := ⟨item, (Reading.row cells').value?⟩
        answer = .ok (if (Reading.row cells).value? = (Reading.row cells').value? then none else some change) ∧
          (cells ≠ cells' → ¬Reading.RunsOver cells cells' → ¬Reading.RunsOver cells' cells →
            answer = .ok (some change)) ∧
          (cells ≠ cells' → (∀ c ∈ cells.dropLast ++ cells'.dropLast, '&' ∉ c.2.toList) →
            answer = .ok (some change)) := by
  intro c c₁ c₂
  refine ⟨c.perform_refresh, ?_⟩
  intro cells cells' new h h' hd hn hnames answer change
  have hf : c₂.Faithful items := by
    have hr : c₂ = Chronicle.run pool items interval (calls ++ .refreshItem item :: between) := by
      rw [Chronicle.run, List.foldl_append]
      rfl
    rw [hr]
    exact Chronicle.run_faithful pool items interval _
  have ha : answer = .ok (if (Reading.row cells).value? = (Reading.row cells').value? then none
      else some change) := hf.answer h h' hd hn
  have hs (hc : cells ≠ cells') (hr : ¬Reading.RunsOver cells cells') (hr' : ¬Reading.RunsOver cells' cells) :
      answer = .ok (some change) := by
    rw [ha, if_neg]
    intro hv
    rcases Reading.eq_or_runsOver_of_value? hnames hv with he | ho | ho
    · exact hc he
    · exact hr ho
    · exact hr' ho
  refine ⟨ha, hs, ?_⟩
  intro hc hamp
  apply hs hc
  · intro ho
    obtain ⟨c, hm, hx⟩ := ho.ampersand
    exact hamp c (List.mem_append_right _ hm) hx
  · intro ho
    obtain ⟨c, hm, hx⟩ := ho.ampersand
    exact hamp c (List.mem_append_left _ hm) hx

def Engine.onePair : Engine (List Cell × Bool) where
  openDatabase _ _ s := (.ok (), s)
  enforceForeignKeys _ s := (.ok (), s)
  close _ s := s
  prepare _ _ s := (.ok ⟨0, true, ["a", "b"]⟩, (s.1, true))
  step _ s := (.ok (if s.2 then some s.1 else none), (s.1, false))
  execute _ _ s := (.ok 0, s)

def Cell.ofText (text : String) : Cell :=
  .text text.toUTF8.data.toList

def meterItems : Std.TreeMap String Binding :=
  (∅ : Std.TreeMap String Binding).insert "meter" { select := some "SELECT a, b FROM t" }

def meterPool (a b : String) : Pool (List Cell × Bool) :=
  (Pool.new .onePair [] ([.ofText a, .ofText b], false)).register
    { id := defaultServer, url := ":memory:", user := "u", password := "p" }

def meterRun (a b : String) (calls : List (Call (List Cell × Bool))) : Gateway (List Cell × Bool) :=
  (Chronicle.run (meterPool a b) meterItems 0 calls).gateway

def rewrite (a b : String) : Call (List Cell × Bool) :=
  .elsewhere fun p => { p with world := { p.world with state := ([.ofText a, .ofText b], false) } }

theorem changed_cell_reported :
    (meterRun "1" "2" []).Yields "meter" (.row [("a", "1"), ("b", "2")]) ∧
      (meterRun "1" "2" [.refreshItem "meter", rewrite "1" "3"]).Yields "meter"
        (.row [("a", "1"), ("b", "3")]) ∧
      ((meterRun "1" "2" [.refreshItem "meter", rewrite "1" "3"]).refreshItem "meter").1 =
        .ok (some ⟨"meter", some "a=1&b=3"⟩) := by
  have h : (meterRun "1" "2" []).Yields "meter" (.row [("a", "1"), ("b", "2")]) :=
    ⟨"SELECT a, b FROM t", ⟨_, false⟩, rfl, rfl, rfl⟩
  have h' : (meterRun "1" "2" [.refreshItem "meter", rewrite "1" "3"]).Yields "meter"
      (.row [("a", "1"), ("b", "3")]) := ⟨"SELECT a, b FROM t", ⟨_, false⟩, rfl, rfl, rfl⟩
  have hr := (row_change_reported (meterPool "1" "2") meterItems 0 [] [rewrite "1" "3"] "meter").2
    _ _ [] h h' rfl (by simp) rfl
  exact ⟨h, h', hr.2.2 (by decide) (by decide)⟩

theorem moved_text_not_reported :
    ¬∀ (pool : Pool (List Cell × Bool)) (items : Std.TreeMap String Binding) (interval : ℕ)
      (calls between : List (Call (List Cell × Bool))) (item : String) (cells cells' : List (String × String))
      (new : List Deed),
      let c := Chronicle.run pool items interval calls
      let c₁ := c.perform (.refreshItem item)
      let c₂ := between.foldl Chronicle.perform c₁
      c.gateway.Yields item (.row cells) → c₂.gateway.Yields item (.row cells') →
        c₂.deeds = new ++ c₁.deeds → (∀ d ∈ new, d.value? items item = none) →
        2 ≤ cells.length → cells.map Prod.fst = cells'.map Prod.fst → cells ≠ cells' →
        ∃ change, (c₂.gateway.refreshItem item).1 = .ok (some change) := by
  intro h
  obtain ⟨change, hc⟩ := h (meterPool "1&b=2" "3") meterItems 0 [] [rewrite "1" "2&b=3"] "meter"
    [("a", "1&b=2"), ("b", "3")] [("a", "1"), ("b", "2&b=3")] []
    ⟨"SELECT a, b FROM t", ⟨_, false⟩, rfl, rfl, rfl⟩ ⟨"SELECT a, b FROM t", ⟨_, false⟩, rfl, rfl, rfl⟩
    rfl (by simp) (by decide) rfl (by decide)
  cases hc

end ItemGateway
