import ItemGateway.Proofs.PoolInvariant

namespace ItemGateway

variable {σ : Type}

namespace Server

theorem dropMark_append (mark s : List Char) : dropMark mark (mark ++ s) = s := by
  rw [dropMark, List.isPrefixOf?_eq_some_iff_append_eq.mpr rfl, Option.getD_some]

theorem dropMark_of_unmarked {mark s : List Char} (h : ¬mark <+: s) : dropMark mark s = s := by
  cases hd : mark.isPrefixOf? s with
  | none => rw [dropMark, hd, Option.getD_none]
  | some rest => exact absurd ⟨rest, List.isPrefixOf?_eq_some_iff_append_eq.mp hd⟩ h

def databaseAt (path : String) : Option String :=
  if path = ":memory:" then none else some path

/-- Two slashes count as those of the scheme even where there is no scheme. -/
inductive UrlFor : String → String → Prop
  | scheme (path : String) : UrlFor ("sqlite://" ++ path) path
  | short {path : String} (h : ¬"//".toList <+: path.toList) : UrlFor ("sqlite:" ++ path) path
  | bare {path : String} (hs : ¬"sqlite:".toList <+: path.toList) (h : ¬"//".toList <+: path.toList) :
      UrlFor path path
  | slashes (path : String) : UrlFor ("//" ++ path) path

theorem databasePath_eq_databaseAt (url : String) :
    databasePath url =
      databaseAt (String.ofList (dropMark "//".toList (dropMark "sqlite:".toList url.toList))) := by
  rw [databasePath, databaseAt]
  simp only [← String.toList_inj, String.toList_ofList]

theorem UrlFor.databasePath_eq {url path : String} (h : UrlFor url path) : databasePath url = databaseAt path := by
  rw [databasePath_eq_databaseAt]
  congr 1
  rw [← String.toList_inj, String.toList_ofList]
  cases h with
  | scheme =>
    have hu : ("sqlite://" ++ path).toList = "sqlite:".toList ++ ("//".toList ++ path.toList) := by simp
    rw [hu, dropMark_append, dropMark_append]
  | short h => rw [String.toList_append, dropMark_append, dropMark_of_unmarked h]
  | bare hs h => rw [dropMark_of_unmarked hs, dropMark_of_unmarked h]
  | slashes =>
    have hs : ¬"sqlite:".toList <+: ("//" ++ path).toList := by simp
    rw [dropMark_of_unmarked hs, String.toList_append, dropMark_append]

theorem exists_urlFor (url : String) : ∃ path, UrlFor url path := by
  have named {mark url : String} (h : mark.toList <+: url.toList) : ∃ path, url = mark ++ path := by
    obtain ⟨rest, hr⟩ := h
    exact ⟨String.ofList rest, by rw [← String.toList_inj, ← hr]; simp⟩
  by_cases hs : "sqlite:".toList <+: url.toList
  · obtain ⟨rest, rfl⟩ := named hs
    by_cases h : "//".toList <+: rest.toList
    · obtain ⟨path, rfl⟩ := named h
      rw [← String.append_assoc]
      exact ⟨path, .scheme path⟩
    · exact ⟨rest, .short h⟩
  · by_cases h : "//".toList <+: url.toList
    · obtain ⟨path, rfl⟩ := named h
      exact ⟨path, .slashes path⟩
    · exact ⟨url, .bare hs h⟩

theorem databaseAt_eq_none_iff {path : String} : databaseAt path = none ↔ path = ":memory:" := by
  simp [databaseAt]

theorem databasePath_eq_none_iff {url : String} :
    databasePath url = none ↔
      url ∈ [":memory:", "sqlite::memory:", "sqlite://:memory:", "//:memory:"] := by
  constructor
  · intro h
    obtain ⟨path, hw⟩ := exists_urlFor url
    rw [hw.databasePath_eq, databaseAt_eq_none_iff] at h
    subst h
    cases hw <;> simp
  · intro h
    simp only [List.mem_cons, List.not_mem_nil, or_false] at h
    rcases h with rfl | rfl | rfl | rfl <;> decide

end Server

def Engine.noting (e : Engine σ) : Engine (σ × List (Option String)) where
  openDatabase r database s :=
    let a := e.openDatabase r database s.1
    (a.1, a.2, database :: s.2)
  enforceForeignKeys r s :=
    let a := e.enforceForeignKeys r s.1
    (a.1, a.2, s.2)
  close r s := (e.close r s.1, s.2)
  closeRefusal? r s := e.closeRefusal? r s.1
  prepare r sql s :=
    let a := e.prepare r sql s.1
    (a.1, a.2, s.2)
  step r s :=
    let a := e.step r s.1
    (a.1, a.2, s.2)
  execute r bound s :=
    let a := e.execute r bound s.1
    (a.1, a.2, s.2)

theorem Engine.noted_connect (e : Engine σ) (r : Ref) (s : Server) (w : σ × List (Option String)) :
    (e.noting.driver.connect r s w).2.2 = Server.databasePath s.url :: w.2 := by
  simp only [Engine.driver, Engine.noting]
  rcases e.openDatabase r (Server.databasePath s.url) w.1 with ⟨_ | _, v⟩
  · rfl
  · rcases he : e.enforceForeignKeys r v with ⟨_ | _, u⟩ <;> simp [he]

theorem Link.world_acquire {l : Link σ} {d : Driver σ} (hb : l.broken = false) (hl : l.live = false)
    (hc : l.server.isComplete = true) (hd : l.driver = some d) (r : Ref) (w : World σ) :
    (l.acquire r w).2.2 = (w.connect d r l.server).2 := by
  simp only [acquire, hb, hl, hc, hd]
  rcases w.connect d r l.server with ⟨_ | _, v⟩ <;> rfl

namespace Pool

def asked (p : Pool (σ × List (Option String))) : List (Option String) :=
  p.world.state.2

theorem driver_new (e : Engine σ) {drivers : List (Driver σ)} (hd : ∀ d ∈ drivers, d.id ≠ "sqlite") (state : σ) :
    (new e drivers state).drivers["sqlite"]? = some e.driver := by
  let known (m : Std.TreeMap String (Driver σ)) : Prop := m["sqlite"]? = some e.driver
  have start : known (Std.TreeMap.insert ∅ e.driver.id e.driver) := Std.TreeMap.getElem?_insert_self
  refine List.foldlRecOn (motive := known) drivers _ start ?_
  intro m hm d hmem
  have hne : ¬compare d.id "sqlite" = .eq := fun he => hd d hmem (Std.compare_eq_iff_eq.mp he)
  change (m.insert d.id d)["sqlite"]? = some e.driver
  rw [Std.TreeMap.getElem?_insert, if_neg hne]
  exact hm

theorem Sound.driver_of_complete {drivers : Std.TreeMap String (Driver σ)} {p : Pool σ} (h : Sound drivers p)
    {r : Ref} (hc : (p.link r).server.isComplete = true) :
    (p.link r).driver = drivers[(p.link r).server.driver]? := by
  apply h.assigned
  by_contra hr
  rw [p.link_of_size_le (Nat.le_of_not_lt hr)] at hc
  exact Bool.false_ne_true hc

/-- A path without a scheme that begins with two slashes is opened without them. -/
theorem opened_at_named_path (e : Engine σ) {drivers : List (Driver (σ × List (Option String)))}
    (hd : ∀ d ∈ drivers, d.id ≠ "sqlite") (state : σ) (actions : List (Action (σ × List (Option String)))) (r : Ref) :
    let p := (new e.noting drivers (state, [])).run actions
    let l := p.link r
    l.server.driver = "sqlite" → l.server.isComplete = true → l.live = false → l.broken = false →
      (∀ path, path ≠ ":memory:" → Server.UrlFor l.server.url path →
        (p.acquire r).2.asked = some path :: p.asked) ∧
      ((p.acquire r).2.asked = none :: p.asked ↔
        l.server.url ∈ [":memory:", "sqlite::memory:", "sqlite://:memory:", "//:memory:"]) ∧
      ∃ path, Server.UrlFor l.server.url path := by
  intro p l hs hc hl hb
  have hp : Sound _ p := (new_sound e.noting drivers (state, [])).run actions
  have hdriver : l.driver = some e.noting.driver := by
    rw [hp.driver_of_complete hc, hs, driver_new e.noting hd]
  have hq : (p.acquire r).2.asked = Server.databasePath l.server.url :: p.asked := by
    change (l.acquire r p.world).2.2.state.2 = _
    rw [Link.world_acquire hb hl hc hdriver]
    exact e.noted_connect r l.server p.world.state
  rw [hq]
  refine ⟨?_, ?_, Server.exists_urlFor _⟩
  · intro path hm hw
    rw [hw.databasePath_eq, Server.databaseAt, if_neg hm]
  · rw [List.cons.injEq, and_iff_left rfl, Server.databasePath_eq_none_iff]

def archive (url : String) : Server where
  id := "archive"
  url := url
  user := "u"
  password := "p"

def filePool (url : String) : Pool (Unit × List (Option String)) :=
  (new Engine.idle.noting [] ((), [])).run [.register (archive url)]

theorem four_slashes_opened :
    let p := filePool "sqlite:////srv//a.db"
    let l := p.link 0
    (∀ d ∈ ([] : List (Driver (Unit × List (Option String)))), d.id ≠ "sqlite") ∧
      l.server.driver = "sqlite" ∧ l.server.isComplete = true ∧ l.live = false ∧ l.broken = false ∧
      "//srv//a.db" ≠ ":memory:" ∧ Server.UrlFor l.server.url "//srv//a.db" ∧
      (p.acquire 0).2.asked = [some "//srv//a.db"] := by
  intro p l
  have hd : ∀ d ∈ ([] : List (Driver (Unit × List (Option String)))), d.id ≠ "sqlite" := nofun
  have hs : l.server = archive "sqlite:////srv//a.db" := rfl
  have hc : l.server.isComplete = true := by
    rw [hs]
    decide
  have hm : "//srv//a.db" ≠ ":memory:" := by decide
  have hw : Server.UrlFor l.server.url "//srv//a.db" := by
    rw [hs]
    exact .scheme "//srv//a.db"
  have h := opened_at_named_path .idle hd () [.register (archive "sqlite:////srv//a.db")] 0
    (congrArg Server.driver hs) hc rfl rfl
  exact ⟨hd, congrArg Server.driver hs, hc, rfl, rfl, hm, hw, h.1 _ hm hw⟩

theorem bare_slashes_lost :
    ¬∀ path : String, path ≠ ":memory:" → ¬"sqlite:".toList <+: path.toList →
      ((filePool path).acquire 0).2.asked = [some path] := by
  intro h
  have hp := h "//srv/a.db" (by decide) (by decide)
  have ha : ((filePool "//srv/a.db").acquire 0).2.asked = [some "srv/a.db"] := by rfl
  rw [ha] at hp
  exact absurd hp (by decide)

end Pool

end ItemGateway
