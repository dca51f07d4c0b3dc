import ItemGateway.Config
import ItemGateway.Proofs.Enrollment

namespace ItemGateway

variable {σ : Type}

namespace Config

def Keyed (servers : Std.TreeMap String Server) : Prop :=
  ∀ (id : String) (s : Server), servers[id]? = some s → s.id = id

theorem Keyed.insert {servers : Std.TreeMap String Server} {s : Server} {id : String}
    (h : Keyed servers) (hs : s.id = id) : Keyed (servers.insert id s) := by
  intro id' t ht
  rw [Std.TreeMap.getElem?_insert] at ht
  split at ht
  · next hc =>
    obtain rfl := Option.some.inj ht
    rw [hs]
    exact Std.LawfulEqCmp.eq_of_compare hc
  · exact h id' t ht

theorem id_set (s : Server) (value : String) (f : Server.Field) : (s.set value f).id = s.id := by
  cases f <;> rfl

theorem Keyed.addProperty {servers : Std.TreeMap String Server} (h : Keyed servers) (key value : String) :
    Keyed (addProperty servers key value) := by
  unfold Config.addProperty
  split
  · exact h
  · next id f hk =>
    apply h.insert
    rw [id_set]
    cases hs : servers[id]? with
    | none => rfl
    | some s => exact h id s hs

theorem serversOf_keyed (props : Texts) : Keyed (serversOf props) := by
  have hp : Keyed (props.foldl Config.addProperty ∅) := by
    rw [Std.TreeMap.foldl_eq_foldl_toList]
    apply List.foldlRecOn
    · intro id s hs
      simp at hs
    · exact fun _ h kv _ => h.addProperty kv.1 kv.2
  exact hp.insert rfl

theorem word?_of_some {props : Texts} {key text : String} (h : props[key]? = some text) :
    word? props key = if Text.trimmed text = "" then none else some (Text.trimmed text) := by
  rw [word?, h, Option.map_some]
  by_cases hb : Text.trimmed text = ""
  · rw [if_pos hb, hb]
    rfl
  · rw [if_neg hb, Option.filter_some_pos (by simpa using hb)]

theorem word?_of_none {props : Texts} {key : String} (h : props[key]? = none) : word? props key = none := by
  rw [word?, h]
  rfl

theorem eq_of_ofProperties {props : Texts} {c : Config} (h : ofProperties props = .ok c) :
    ∃ interval, intervalOf props = .ok interval ∧
      c = { servers := (serversOf props).values.map fun s => { s with driver := driverOf props },
            interval, driver := driverOf props } := by
  rw [ofProperties] at h
  split at h
  · cases h
  cases hi : intervalOf props with
  | error f =>
    rw [hi] at h
    cases h
  | ok interval =>
    rw [hi] at h
    cases h
    exact ⟨interval, rfl, rfl⟩

theorem servers_ofProperties {props : Texts} {c : Config} (h : ofProperties props = .ok c) :
    c.servers = (serversOf props).values.map fun s => { s with driver := driverOf props } := by
  obtain ⟨interval, -, rfl⟩ := eq_of_ofProperties h
  rfl

theorem items_ofProperties {props : Texts} {c : Config} (h : ofProperties props = .ok c) : c.items = ∅ := by
  obtain ⟨interval, -, rfl⟩ := eq_of_ofProperties h
  rfl

theorem Keyed.map_id_values {servers : Std.TreeMap String Server} (h : Keyed servers) :
    servers.values.map (·.id) = servers.keys := by
  rw [values_eq_map_toList, List.map_map, ← Std.TreeMap.map_fst_toList_eq_keys]
  apply List.map_congr_left
  rintro ⟨id, s⟩ hs
  exact h id s (Std.TreeMap.mem_toList_iff_getElem?_eq_some.mp hs)

theorem ids_eq_keys {props : Texts} {c : Config} (h : ofProperties props = .ok c) :
    c.servers.map (·.id) = (serversOf props).keys := by
  rw [servers_ofProperties h, List.map_map]
  exact (serversOf_keyed props).map_id_values

theorem servers_increasing {props : Texts} {c : Config} (h : ofProperties props = .ok c) :
    c.servers.Pairwise fun s t => s.id < t.id := by
  have hk := keys_increasing (serversOf props)
  rwa [← ids_eq_keys h, List.pairwise_map] at hk

theorem ids_distinct {props : Texts} {c : Config} (h : ofProperties props = .ok c) :
    c.servers.Pairwise fun s t => s.id ≠ t.id := by
  apply (servers_increasing h).imp
  intro s t hl he
  rw [he] at hl
  exact String.lt_irrefl _ hl

/-- Every configured server is registered with a fresh link. Its id leads to it if it can stand in front of a
colon, and otherwise no address does. -/
theorem configured_server_resolved {props : Texts} {c : Config} (h : ofProperties props = .ok c)
    (p : Pool σ) (order : List Ref) {s : Server} (hs : s ∈ c.servers) :
    let q := p.replaceIn order c.servers
    ∃ r, q.get? s.id = some r ∧ q.link r = p.freshLink s ∧
      (Address.IsId s.id.toList → ∀ template,
        q.resolve (s.id ++ ":" ++ template) = ⟨s.id, template, some r⟩) ∧
      (¬Address.IsId s.id.toList → ∀ address, (q.resolve address).server ≠ s.id) := by
  intro q
  obtain ⟨before, after, hc⟩ := List.mem_iff_append.mp hs
  have hd := ids_distinct h
  rw [hc, List.pairwise_append, List.pairwise_cons] at hd
  obtain ⟨r, -, hg, hl⟩ := p.replaceIn_last order fun t ht => (hd.2.1.1 t ht).symm
  rw [← hc] at hg hl
  refine ⟨r, hg, hl, ?_, ?_⟩
  · intro hi template
    rw [Pool.resolve_append hi, hg]
  · intro hi address he
    apply hi
    rw [← he]
    exact q.isId_resolve address

def dottedProps : Texts :=
  (∅ : Texts).insert "db.main.url" ":memory:"

theorem dotted_server_resolved :
    ∃ c s, ofProperties dottedProps = .ok c ∧ s ∈ c.servers ∧ Address.IsId s.id.toList ∧
      ∃ r, ((Pool.new .idle [] ()).replaceAll c.servers).resolve "db.main:SELECT ':'" =
        ⟨"db.main", "SELECT ':'", some r⟩ := by
  let s : Server := { id := "db.main", url := ":memory:" }
  obtain ⟨c, hc⟩ : ∃ c, ofProperties dottedProps = .ok c := ⟨_, rfl⟩
  have hs : s ∈ c.servers := by
    cases hc
    exact .tail _ (.head _)
  have hi : Address.IsId s.id.toList := by simp [s, Address.IsId, Address.isQuote]
  obtain ⟨r, -, -, hr, -⟩ := configured_server_resolved hc (Pool.new .idle [] ()) _ hs
  exact ⟨c, s, hc, hs, hi, r, hr hi "SELECT ':'"⟩

def hostProps : Texts :=
  (∅ : Texts).insert "host:5432.url" ":memory:"

/-- The colon of a port is taken for the end of the id. -/
theorem host_with_port_not_resolved :
    ¬∀ (props : Texts) (c : Config) (p : Pool Unit) (order : List Ref) (s : Server) (template : String),
      ofProperties props = .ok c → s ∈ c.servers →
        ∃ r, (p.replaceIn order c.servers).resolve (s.id ++ ":" ++ template) = ⟨s.id, template, some r⟩ := by
  intro h
  let s : Server := { id := "host:5432", url := ":memory:" }
  obtain ⟨c, hc⟩ : ∃ c, ofProperties hostProps = .ok c := ⟨_, rfl⟩
  have hs : s ∈ c.servers := by
    cases hc
    exact .tail _ (.head _)
  obtain ⟨r, hr⟩ := h hostProps c (Pool.new .idle [] ()) [] s "SELECT 1" hc hs
  have hi : Address.IsId "host:5432".toList := by
    have hi := Pool.isId_resolve ((Pool.new .idle [] ()).replaceIn [] c.servers) (s.id ++ ":" ++ "SELECT 1")
    rw [hr] at hi
    exact hi
  simp [Address.IsId] at hi

end Config

end ItemGateway
