import ItemGateway.Proofs.IndistinctGateways

/-!
Passwords never show. Gateways whose servers differ in nothing but their passwords answer all requests alike,
write the same to the log and look alike, and so does the program for configurations that differ in nothing else.
-/

namespace ItemGateway

variable {σ α : Type} {same : σ → σ → Prop}

namespace Gateway

structure Face where
  ids : List String
  openIds : List String
  registry : String
  ref? : String → Option Ref
  serverLine : Ref → String
  server : Ref → String
  missing : Ref → List String
  link : Ref → String
  isOpen : Ref → Bool
  trail : List Event
  items : Std.TreeMap String Binding
  last : Std.TreeMap String (Option String)
  interval : ℕ

def face (g : Gateway σ) : Face where
  ids := g.pool.ids
  openIds := g.pool.openIds
  registry := g.pool.debug
  ref? := g.pool.get?
  serverLine r := (g.pool.link r).server.display
  server r := (g.pool.link r).server.debug
  missing r := (g.pool.link r).server.missing
  link r := (g.pool.link r).debug
  isOpen r := (g.pool.link r).isOpen
  trail := g.pool.world.trail
  items := g.items
  last := g.last
  interval := g.interval

theorem Indistinct.face {g k : Gateway σ} (h : g.Indistinct same k) : g.face = k.face := by
  obtain ⟨q, h⟩ := h
  have hids : g.pool.ids = q.ids := congrArg Std.TreeMap.keys h.names
  have hserver (r : Ref) : (g.pool.link r).server.Indistinct (q.link r).server := (h.link r).server
  simp only [Gateway.face, Face.mk.injEq, hids, h.openIds, h.debug, h.world.trail, true_and, and_true]
  refine ⟨?_, ?_, ?_, ?_, ?_, ?_⟩
  · exact funext h.get?
  · exact funext fun r => (hserver r).display
  · exact funext fun r => (hserver r).debug
  · exact funext fun r => (hserver r).missing
  · exact funext fun r => (h.link r).debug
  · exact funext fun r => (h.link r).isOpen

end Gateway

inductive Request (σ : Type) : Type 1
  | step (s : Step)
  | register (s : Server)
  | replaceAll (tour : Tour) (servers : List Server)
  | use {α : Type} (r : Ref) (task : Task σ α)
  | abandon {α : Type} (r : Ref) (task : Task σ α)

inductive Response : Type 1
  | reply (a : Reply)
  | result {α : Type} (a : Except Fault α)
  | done

/-- The requests differ in the passwords of servers at most. A caller to whom a connection is lent cannot tell
states that are the `same` apart. -/
inductive Request.Indistinct (same : σ → σ → Prop) : Request σ → Request σ → Prop
  | step (s : Step) : Indistinct same (.step s) (.step s)
  | register {s t : Server} (h : s.Indistinct t) : Indistinct same (.register s) (.register t)
  | replaceAll (tour : Tour) {servers servers' : List Server}
      (h : List.Forall₂ Server.Indistinct servers servers') :
      Indistinct same (.replaceAll tour servers) (.replaceAll tour servers')
  | use {α : Type} (r : Ref) (task : Task σ α)
      (h : Congruent (World.Indistinct same) (World.Indistinct same) task.run) :
      Indistinct same (.use r task) (.use r task)
  | abandon {α : Type} (r : Ref) (task : Task σ α)
      (h : Congruent (World.Indistinct same) (World.Indistinct same) task.run) :
      Indistinct same (.abandon r task) (.abandon r task)

namespace Gateway

def stepLog (g : Gateway σ) : Step → List LogLine
  | .select address => g.pool.selectLog address
  | .update address payload => g.pool.updateLog address payload
  | .insert address payload => g.pool.insertLog address payload
  | .acquire r | .read r _ | .execute r _ => g.pool.acquireLog r
  | .release _ => []
  | .refreshItem item => g.refreshItemLog item
  | .command item text => g.commandLog item text
  | .refresh => g.refreshLog
  | .connectAll tour => g.pool.connectLog (tour.order g.pool.refs)
  | .closeAll tour => g.pool.closeLog (tour.order g.pool.refs)

def serve (g : Gateway σ) : Request σ → Response × Gateway σ
  | .step s => (.reply (g.step s).1, (g.step s).2)
  | .register s => (.done, { g with pool := g.pool.register s })
  | .replaceAll tour servers =>
    (.done, { g with pool := g.pool.replaceIn (tour.order g.pool.refs) servers })
  | .use r task => (.result (g.pool.use r task.run).1, { g with pool := (g.pool.use r task.run).2 })
  | .abandon r task =>
    let a := g.pool.abandon r fun w => (task.run w).2
    (.result a.1, { g with pool := a.2 })

def serveLog (g : Gateway σ) : Request σ → List LogLine
  | .step s => g.stepLog s
  | .register s => g.pool.registerLog s
  | .replaceAll tour servers => g.pool.replaceLog (tour.order g.pool.refs) servers
  | .use r _ | .abandon r _ => g.pool.acquireLog r

def serveEach : List (Request σ) → Gateway σ → List (Response × List LogLine × Face)
  | [], _ => []
  | a :: requests, g =>
    ((g.serve a).1, g.serveLog a, (g.serve a).2.face) :: serveEach requests (g.serve a).2

theorem Indistinct.stepLog {g k : Gateway σ} (h : g.Indistinct same k) (s : Step) : g.stepLog s = k.stepLog s := by
  have hitem := h.refreshItemLog
  have hcommand := h.commandLog
  have hrefresh := h.refreshLog
  obtain ⟨q, h⟩ := h
  cases s with
  | select address => exact h.selectLog address
  | update address payload => exact h.updateLog address payload
  | insert address payload => exact h.insertLog address payload
  | acquire r | read r _ | execute r _ => exact h.acquireLog r
  | release r => rfl
  | refreshItem item => exact hitem item
  | command item text => exact hcommand item text
  | refresh => exact hrefresh
  | connectAll tour =>
    simp only [Gateway.stepLog, ← h.refs]
    exact h.connectLog _
  | closeAll tour =>
    simp only [Gateway.stepLog, ← h.refs]
    exact h.closeLog _

theorem Indistinct.serveLog {g k : Gateway σ} (h : g.Indistinct same k) {a b : Request σ}
    (hab : a.Indistinct same b) : g.serveLog a = k.serveLog b := by
  cases hab with
  | step s => exact h.stepLog s
  | register hs =>
    obtain ⟨q, h⟩ := h
    exact h.registerLog hs
  | replaceAll tour hs =>
    obtain ⟨q, h⟩ := h
    simp only [Gateway.serveLog, ← h.refs]
    exact h.replaceLog _ hs
  | use r task _ | abandon r task _ =>
    obtain ⟨q, h⟩ := h
    exact h.acquireLog r

theorem Indistinct.serve {g k : Gateway σ} (h : g.Indistinct same k) {a b : Request σ}
    (hab : a.Indistinct same b) : (g.serve a).1 = (k.serve b).1 ∧ (g.serve a).2.Indistinct same (k.serve b).2 := by
  cases hab with
  | step s =>
    obtain ⟨ha, h'⟩ := step_congruent s _ _ h
    exact ⟨congrArg Response.reply ha, h'⟩
  | register hs =>
    obtain ⟨q, h⟩ := h
    exact ⟨rfl, .intro _ (h.register hs)⟩
  | replaceAll tour hs =>
    obtain ⟨q, h⟩ := h
    simp only [Gateway.serve, ← h.refs]
    exact ⟨trivial, .intro _ (h.replaceIn _ hs)⟩
  | use r task hf =>
    obtain ⟨q, h⟩ := h
    obtain ⟨ha, h'⟩ := Pool.use_congruent r hf _ _ h
    exact ⟨congrArg Response.result ha, .intro _ h'⟩
  | abandon r task hf =>
    obtain ⟨q, h⟩ := h
    obtain ⟨ha, h'⟩ := Pool.abandon_congruent r (fun v w hw => (hf v w hw).2) _ _ h
    exact ⟨congrArg Response.result ha, .intro _ h'⟩

theorem Indistinct.serveEach {g k : Gateway σ} (h : g.Indistinct same k) {requests requests' : List (Request σ)}
    (hr : List.Forall₂ (Request.Indistinct same) requests requests') :
    serveEach requests g = serveEach requests' k := by
  induction hr generalizing g k with
  | nil => rfl
  | cons hab _ ih =>
    obtain ⟨ha, h'⟩ := h.serve hab
    rw [Gateway.serveEach, Gateway.serveEach, ha, h.serveLog hab, h'.face, ih h']

end Gateway

theorem Program.run_indistinct {engine : Engine σ} (he : engine.Respects same) {state state' : σ}
    (hs : same state state') {read read' : String → Except Fault String} {defaultPath : String}
    {args : List String}
    (hc : ∀ line, CommandLine.parse defaultPath args = .ok line →
      Concur Config.Indistinct (load read line) (load read' line)) :
    (run engine state read defaultPath args).1 = (run engine state' read' defaultPath args).1 := by
  rcases hp : CommandLine.parse defaultPath args with e | line
  · rw [run_of_usage hp, run_of_usage hp]
  have hl := hc line hp
  rcases ha : load read line with f | c <;> rcases hb : load read' line with f' | d <;> rw [ha, hb] at hl
  · cases hl
    rw [run_of_unloaded hp ha, run_of_unloaded hp hb]
  · cases hl
  · cases hl
  · cases hl with
    | ok hcd =>
      have hr := Gateway.runToEnd_congruent line.command _ _ (Gateway.ofConfig_indistinct he hs hcd)
      dsimp only at hr
      simp only [run_of_loaded hp ha, run_of_loaded hp hb, hr.1, loadLog, hcd.log,
        Gateway.ofConfigLog_eq he hs hcd]

/-- A driver may keep the passwords as long as its answers do not depend on them. -/
theorem passwords_never_show {engine : Engine σ} {drivers : List (Driver σ)} (he : engine.Respects same)
    (hd : ∀ d ∈ drivers, d.Blind same) {state state' : σ} (hs : same state state') :
    (∀ (items : Std.TreeMap String Binding) (interval : ℕ) (requests requests' : List (Request σ)),
        List.Forall₂ (Request.Indistinct same) requests requests' →
          Gateway.serveEach requests { pool := .new engine drivers state, items, interval } =
            Gateway.serveEach requests' { pool := .new engine drivers state', items, interval }) ∧
      (∀ (read read' : String → Except Fault String) (defaultPath : String) (args : List String),
        (∀ line, CommandLine.parse defaultPath args = .ok line →
            Concur Config.Indistinct (Program.load read line) (Program.load read' line)) →
          (Program.run engine state read defaultPath args).1 =
            (Program.run engine state' read' defaultPath args).1) ∧
      ∀ (text text' : String) (file file' : ConfigFile), ConfigFile.parse? text = some file →
        ConfigFile.parse? text' = some file' → file.Indistinct file' →
          Concur Config.Indistinct (Config.parse text) (Config.parse text') := by
  refine ⟨?_, ?_, ?_⟩
  · intro items interval requests requests' hr
    have hnew : (Pool.new engine drivers state).Indistinct same (.new engine drivers state') :=
      Pool.new_indistinct he hd hs
    exact Gateway.Indistinct.serveEach (.intro _ hnew) hr
  · exact fun _ _ _ _ hc => Program.run_indistinct he hs hc
  · exact fun _ _ _ _ hp hp' hf => Config.parse_indistinct hp hp' hf

def guestBook : Engine (List String) where
  openDatabase _ _ w := (.ok (), w)
  enforceForeignKeys _ w := (.ok (), w)
  close _ w := w
  prepare _ _ w := (.ok ⟨0, true, ["n"]⟩, w)
  step _ w := (.ok (some [.integer w.length]), w)
  execute _ _ w := (.ok w.length, w)

def signing : Driver (List String) where
  id := "signed"
  connect _ s w := (.ok (), s.password :: w)

def equallyLong (v w : List String) : Prop :=
  v.length = w.length

theorem guestBook_respects : guestBook.Respects equallyLong where
  openDatabase _ _ _ _ h := ⟨rfl, h⟩
  enforceForeignKeys _ _ _ h := ⟨rfl, h⟩
  close _ _ _ h := ⟨rfl, h⟩
  prepare _ _ _ _ h := ⟨rfl, h⟩
  step _ _ _ h := ⟨congrArg (fun n : ℕ => Except.ok (some [Cell.integer n])) h, h⟩
  execute _ _ _ _ h := ⟨congrArg Except.ok h, h⟩

theorem signing_blind : signing.Blind equallyLong :=
  fun _ _ _ _ _ _ h => ⟨rfl, congrArg (· + 1) h⟩

def passwordFile (password : String) : String :=
  "[bridge]\nurl = \":memory:\"\nuser = \"u\"\npassword = \"" ++ password ++ "\"\n"

def ConfigFile.listing (file : ConfigFile) : List (String × Option String) × List (String × String) :=
  (file.properties.toList.map fun kv => (kv.1, kv.2.textOf?), file.items.toList)

def listed (password : String) : List (String × Option String) × List (String × String) :=
  ([("password", some password), ("url", some ":memory:"), ("user", some "u")], [])

theorem getElem?_of_listed {file : ConfigFile} {password : String} (h : file.listing = listed password)
    (key : String) :
    file.properties[key]? = if key = "password" then some (.text password) else
      if key = "url" then some (.text ":memory:") else if key = "user" then some (.text "u") else none := by
  have text {v : Toml.Value} {s : String} (hv : v.textOf? = some s) : v = .text s := by
    cases v <;> simp_all [Toml.Value.textOf?]
  have hl : file.properties.toList =
      [("password", .text password), ("url", .text ":memory:"), ("user", .text "u")] := by
    have hp := congrArg Prod.fst h
    simp only [ConfigFile.listing, listed, List.map_eq_cons_iff, List.map_eq_nil_iff, Prod.mk.injEq] at hp
    obtain ⟨⟨_, _⟩, _, hl, ⟨rfl, hv⟩, ⟨_, _⟩, _, rfl, ⟨rfl, hv'⟩, ⟨_, _⟩, _, rfl, ⟨rfl, hv''⟩, rfl⟩ := hp
    rw [hl, ← text hv, ← text hv', ← text hv'']
  apply Option.ext
  intro v
  rw [← Std.TreeMap.mem_toList_iff_getElem?_eq_some, hl]
  grind

theorem indistinct_of_listed {file file' : ConfigFile} {password password' : String}
    (h : file.listing = listed password) (h' : file'.listing = listed password')
    (hb : Text.trimmed password = "" ↔ Text.trimmed password' = "") : file.Indistinct file' where
  properties key := by
    rw [getElem?_of_listed h, getElem?_of_listed h']
    split
    · next hk => exact .some (.inr ⟨.inl hk, _, _, rfl, rfl, hb⟩)
    split
    · exact .some (.inl rfl)
    split
    · exact .some (.inl rfl)
    · exact .none
  items name := by
    have he : file.items.toList = file'.items.toList :=
      (congrArg Prod.snd h).trans (congrArg Prod.snd h').symm
    exact (Std.TreeMap.equiv_iff_toList_eq.mpr he).getElem?_eq

def logins (password : String) : List (Request (List String)) :=
  let server (password : String) : Server := { id := "a", url := "u", user := "u", password, driver := "signed" }
  [.register (server password), .step (.select "a:SELECT n"), .replaceAll .byId [server " "],
    .step (.connectAll .byId)]

theorem logins_indistinct {password password' : String}
    (hb : Text.trimmed password = "" ↔ Text.trimmed password' = "") :
    List.Forall₂ (Request.Indistinct equallyLong) (logins password) (logins password') :=
  .cons (.register ⟨rfl, rfl, rfl, rfl, hb⟩) (.cons (.step _) (.cons (.replaceAll _ (.cons (.refl _) .nil))
    (.cons (.step _) .nil)))

def guestGateway : Gateway (List String) where
  pool := .new guestBook [signing] []
  items := ∅

def printed (password : String) : Transcript :=
  (Program.run guestBook [] (fun _ => .ok (passwordFile password)) "bridge.toml" ["select", "SELECT n"]).1

theorem two_passwords_hidden :
    guestBook.Respects equallyLong ∧ (∀ d ∈ [signing], d.Blind equallyLong) ∧ equallyLong [] [] ∧
      ((logins "hunter2").foldl (fun g a => (g.serve a).2) guestGateway).pool.world.state = ["hunter2"] ∧
      Gateway.serveEach (logins "hunter2") guestGateway = Gateway.serveEach (logins "swordfish") guestGateway ∧
      (Gateway.serveEach (logins "hunter2") guestGateway).map Prod.fst =
        [.done, .reply (.row (.ok ⟨.scalar "1", true⟩)), .done, .reply (.report [("a", .skipped)])] ∧
      printed "hunter2" = printed "swordfish" ∧
      printed "hunter2" = ⟨0, ["0"],
        [.log ⟨.info, "Loading configuration from bridge.toml"⟩,
          .log ⟨.info, "Opened connection for server [id=DefaultServer, url=:memory:, user=u, driver=sqlite]"⟩,
          .log ⟨.info, "Connected 1 server(s) with driver sqlite, skipped 0, failed 0"⟩,
          .note "query returned more than one row; showing the first"]⟩ := by
  have hb : Text.trimmed "hunter2" = "" ↔ Text.trimmed "swordfish" = "" := by decide
  have hd : ∀ d ∈ [signing], d.Blind equallyLong := List.forall_mem_singleton.mpr signing_blind
  have hs : equallyLong [] [] := rfl
  have h := passwords_never_show guestBook_respects hd hs
  obtain ⟨file, hf, hl⟩ : ∃ file, ConfigFile.parse? (passwordFile "hunter2") = some file ∧
      file.listing = listed "hunter2" := Option.map_eq_some_iff.mp (by decide +kernel)
  obtain ⟨file', hf', hl'⟩ : ∃ file, ConfigFile.parse? (passwordFile "swordfish") = some file ∧
      file.listing = listed "swordfish" := Option.map_eq_some_iff.mp (by decide +kernel)
  refine ⟨guestBook_respects, hd, hs, by rfl, h.1 ∅ defaultInterval _ _ (logins_indistinct hb), by rfl, ?_,
    by decide +kernel⟩
  exact h.2.1 _ _ _ _ fun line _ => h.2.2 _ _ _ _ hf hf' (indistinct_of_listed hl hl' hb)

end ItemGateway
