import ItemGateway.Proofs.BindingForm
import ItemGateway.Proofs.ConfiguredServers

namespace ItemGateway

def Server.get (s : Server) : Server.Field → String
  | .url => s.url
  | .user => s.user
  | .password => s.password

theorem Server.get_set (s : Server) (value : String) (f g : Server.Field) :
    (s.set value f).get g = if g = f then value else s.get g := by
  cases f <;> cases g <;> rfl

theorem Server.eq_of_get {s t : Server} (hi : s.id = t.id) (hf : ∀ f, s.get f = t.get f)
    (hd : s.driver = t.driver) : s = t := by
  obtain ⟨id, url, user, password, driver⟩ := s
  obtain rfl : id = t.id := hi
  obtain rfl : url = t.url := hf .url
  obtain rfl : user = t.user := hf .user
  obtain rfl : password = t.password := hf .password
  obtain rfl : driver = t.driver := hd
  rfl

namespace Config

/-! ### Keys -/

def keyOf (id : String) (f : Server.Field) : String :=
  id ++ "." ++ f.name

theorem toList_keyOf (id : String) (f : Server.Field) :
    (keyOf id f).toList = id.toList ++ '.' :: f.name.toList := by
  simp [keyOf]

theorem getLast?_key (id : List Char) (f : Server.Field) :
    (id ++ '.' :: f.name.toList).getLast? = f.name.toList.getLast? := by
  cases f <;> simp [Server.Field.name]

theorem keyOf_inj {id id' : String} {f f' : Server.Field} (h : keyOf id f = keyOf id' f') :
    id = id' ∧ f = f' := by
  have hl := congrArg String.toList h
  rw [toList_keyOf, toList_keyOf] at hl
  obtain rfl : f = f' := by
    have he := congrArg List.getLast? hl
    rw [getLast?_key, getLast?_key] at he
    -- The names of the fields end in different letters.
    revert he
    cases f <;> cases f' <;> decide
  exact ⟨String.toList_inj.mp (List.append_cancel_right hl), rfl⟩

theorem ownerOf?_eq_some_iff {key id : List Char} {f : Server.Field} :
    ownerOf? key f = some id ↔ key = id ++ '.' :: f.name.toList := by
  rw [ownerOf?, Option.map_eq_some_iff]
  constructor
  · rintro ⟨rest, hr, rfl⟩
    rw [List.isPrefixOf?_eq_some_iff_append_eq] at hr
    rw [← List.reverse_reverse key, ← hr, List.reverse_append, List.reverse_reverse]
  · rintro rfl
    refine ⟨id.reverse, ?_, List.reverse_reverse id⟩
    rw [List.isPrefixOf?_eq_some_iff_append_eq, List.reverse_append]

theorem serverKey?_eq_some_iff {key id : String} {f : Server.Field} :
    serverKey? key = some (id, f) ↔ '\n' ∉ id.toList ∧ key = keyOf id f := by
  have found {id : String} {f : Server.Field} (h : serverKey? key = some (id, f)) :
      '\n' ∉ id.toList ∧ key = keyOf id f := by
    obtain ⟨g, -, hg⟩ := List.exists_of_findSome?_eq_some h
    split at hg
    · next owner ho =>
      split at hg
      · cases hg
      next hn =>
      cases hg
      rw [String.toList_ofList, ← String.toList_inj, toList_keyOf, String.toList_ofList]
      exact ⟨by simpa using hn, ownerOf?_eq_some_iff.mp ho⟩
    · cases hg
  constructor
  · exact found
  · rintro ⟨hn, rfl⟩
    have hs : (serverKey? (keyOf id f)).isSome = true := by
      rw [serverKey?, List.findSome?_isSome_iff]
      refine ⟨f, by cases f <;> simp, ?_⟩
      rw [ownerOf?_eq_some_iff.mpr (toList_keyOf id f)]
      simp [hn]
    obtain ⟨⟨id', f'⟩, hk⟩ := Option.isSome_iff_exists.mp hs
    obtain ⟨rfl, rfl⟩ := keyOf_inj (found hk).2
    exact hk

/-! ### Tables of servers -/

structure Describes (ps : List (String × String)) (servers : Std.TreeMap String Server) : Prop where
  listed : ∀ id : String, id ∈ servers ↔
    '\n' ∉ id.toList ∧ ∃ f, (ps.reverse.lookup (keyOf id f)).isSome = true
  fields : ∀ (id : String) (s : Server), servers[id]? = some s →
    ∀ f, s.get f = (ps.reverse.lookup (keyOf id f)).getD ""

namespace Describes

variable {ps : List (String × String)} {servers : Std.TreeMap String Server}

theorem get_getD (h : Describes ps servers) {id : String} (hn : '\n' ∉ id.toList) (f : Server.Field) :
    ((servers[id]?).getD { id }).get f = (ps.reverse.lookup (keyOf id f)).getD "" := by
  cases hs : servers[id]? with
  | some s => exact h.fields id s hs f
  | none =>
    have hl : ps.reverse.lookup (keyOf id f) = none := by
      rw [← Option.not_isSome_iff_eq_none]
      intro hf
      have hm := (h.listed id).mpr ⟨hn, f, hf⟩
      rw [Std.TreeMap.mem_iff_isSome_getElem?, hs] at hm
      cases hm
    rw [hl]
    cases f <;> rfl

theorem lookup_concat_of_ne {key id : String} {f : Server.Field} (hne : keyOf id f ≠ key) (value : String) :
    (ps ++ [(key, value)]).reverse.lookup (keyOf id f) = ps.reverse.lookup (keyOf id f) := by
  rw [lookup_reverse_concat, if_neg hne]

theorem concat_of_other (h : Describes ps servers) {key : String} (hk : serverKey? key = none)
    (value : String) : Describes (ps ++ [(key, value)]) servers := by
  have hne {id : String} (hn : '\n' ∉ id.toList) (f : Server.Field) : keyOf id f ≠ key := by
    intro he
    have hs := serverKey?_eq_some_iff.mpr ⟨hn, he.symm⟩
    rw [hk] at hs
    cases hs
  refine ⟨?_, ?_⟩
  · intro id
    rw [h.listed]
    apply and_congr_right
    intro hn
    simp only [lookup_concat_of_ne (hne hn _)]
  · intro id s hs f
    have hm : id ∈ servers := Std.TreeMap.mem_iff_isSome_getElem?.mpr (Option.isSome_of_eq_some hs)
    rw [lookup_concat_of_ne (hne ((h.listed id).mp hm).1 f)]
    exact h.fields id s hs f

theorem insert_set (h : Describes ps servers) {owner : String} (hn : '\n' ∉ owner.toList) (g : Server.Field)
    (value : String) :
    Describes (ps ++ [(keyOf owner g, value)])
      (servers.insert owner (((servers[owner]?).getD { id := owner }).set value g)) := by
  have hne {id : String} (hi : owner ≠ id) (f : Server.Field) : keyOf id f ≠ keyOf owner g :=
    fun he => hi (keyOf_inj he).1.symm
  refine ⟨?_, ?_⟩
  · intro id
    rw [Std.TreeMap.mem_insert, Std.compare_eq_iff_eq]
    by_cases hi : owner = id
    · subst hi
      have hl := lookup_reverse_concat ps (keyOf owner g) value (keyOf owner g)
      rw [if_pos rfl] at hl
      simp only [true_or, true_iff]
      exact ⟨hn, g, Option.isSome_of_eq_some hl⟩
    · simp only [hi, false_or, h.listed, lookup_concat_of_ne (hne hi _)]
  · intro id s hs f
    simp only [Std.TreeMap.getElem?_insert, Std.compare_eq_iff_eq] at hs
    by_cases hi : owner = id
    · subst hi
      rw [if_pos rfl] at hs
      cases hs
      rw [Server.get_set, lookup_reverse_concat]
      by_cases hf : f = g
      · rw [if_pos hf, if_pos (by rw [hf]), Option.getD_some]
      · rw [if_neg hf, if_neg fun he => hf (keyOf_inj he).2]
        exact h.get_getD hn f
    · rw [if_neg hi] at hs
      rw [lookup_concat_of_ne (hne hi f)]
      exact h.fields id s hs f

theorem addProperty (h : Describes ps servers) (key value : String) :
    Describes (ps ++ [(key, value)]) (addProperty servers key value) := by
  cases hk : serverKey? key with
  | none =>
    simp only [Config.addProperty, hk]
    exact h.concat_of_other hk value
  | some owned =>
    obtain ⟨hn, rfl⟩ := serverKey?_eq_some_iff.mp hk
    simp only [Config.addProperty, hk]
    exact h.insert_set hn owned.2 value

end Describes

theorem describes_foldl (ps : List (String × String)) :
    Describes ps (ps.foldl (fun m e => Config.addProperty m e.1 e.2) ∅) := by
  induction ps using List.reverseRecOn with
  | nil => exact ⟨by simp, by simp⟩
  | append_singleton ps e ih =>
    rw [List.foldl_append]
    exact ih.addProperty e.1 e.2

/-! ### Servers of a configuration -/

def sourceOf (id : String) (f : Server.Field) : String :=
  if id = "DefaultServer" then f.name else keyOf id f

theorem describes_toList (props : Texts) : Describes props.toList (props.foldl addProperty ∅) := by
  rw [Std.TreeMap.foldl_eq_foldl_toList]
  exact describes_foldl props.toList

theorem mem_serversOf_iff (props : Texts) (id : String) :
    id ∈ serversOf props ↔ id = "DefaultServer" ∨ '\n' ∉ id.toList ∧ ∃ f, keyOf id f ∈ props := by
  rw [serversOf, Std.TreeMap.mem_insert, Std.compare_eq_iff_eq, (describes_toList props).listed,
    eq_comm (a := defaultServer)]
  simp only [lookup_reverse_toList, ← Std.TreeMap.mem_iff_isSome_getElem?]
  rfl

theorem get_serversOf {props : Texts} {id : String} {s : Server} (h : (serversOf props)[id]? = some s)
    (f : Server.Field) : s.get f = props.getD (sourceOf id f) "" := by
  simp only [serversOf, Std.TreeMap.getElem?_insert, Std.compare_eq_iff_eq] at h
  by_cases hi : "DefaultServer" = id
  · rw [defaultServer, if_pos hi] at h
    cases h
    rw [sourceOf, if_pos hi.symm]
    cases f <;> rfl
  · rw [defaultServer, if_neg hi] at h
    rw [sourceOf, if_neg (Ne.symm hi), Std.TreeMap.getD_eq_getD_getElem?, ← lookup_reverse_toList]
    exact (describes_toList props).fields id s h f

inductive IsDriver (props : Texts) : String → Prop
  | named {text : String} (h : props["driver"]? = some text) (hb : Text.trimmed text ≠ "") :
      IsDriver props (Text.trimmed text)
  | blank {text : String} (h : props["driver"]? = some text) (hb : Text.trimmed text = "") :
      IsDriver props "sqlite"
  | absent (h : props["driver"]? = none) : IsDriver props "sqlite"

theorem driverOf_of_some {props : Texts} {text : String} (h : props["driver"]? = some text) :
    driverOf props = if Text.trimmed text = "" then "sqlite" else Text.trimmed text := by
  rw [driverOf, word?_of_some h]
  split <;> rfl

theorem driverOf_of_none {props : Texts} (h : props["driver"]? = none) : driverOf props = "sqlite" := by
  rw [driverOf, word?_of_none h]
  rfl

theorem isDriver_iff {props : Texts} {driver : String} : IsDriver props driver ↔ driver = driverOf props := by
  constructor
  · intro h
    cases h with
    | named h hb => rw [driverOf_of_some h, if_neg hb]
    | blank h hb => rw [driverOf_of_some h, if_pos hb]
    | absent h => rw [driverOf_of_none h]
  · rintro rfl
    cases h : props["driver"]? with
    | none =>
      rw [driverOf_of_none h]
      exact .absent h
    | some text =>
      rw [driverOf_of_some h]
      split
      · next hb => exact .blank h hb
      · next hb => exact .named h hb

structure Configured (props : Texts) (s : Server) : Prop where
  listed : s.id = "DefaultServer" ∨ '\n' ∉ s.id.toList ∧ ∃ f, keyOf s.id f ∈ props
  fields : ∀ f, s.get f = props.getD (sourceOf s.id f) ""
  driver : IsDriver props s.driver

theorem mem_servers_iff {props : Texts} {c : Config} (h : ofProperties props = .ok c) {s : Server} :
    s ∈ c.servers ↔ Configured props s := by
  rw [servers_ofProperties h, values_eq_map_toList, List.map_map, List.mem_map]
  have get_driver (t : Server) (driver : String) (f : Server.Field) :
      { t with driver }.get f = t.get f := by cases f <;> rfl
  constructor
  · rintro ⟨⟨id, t⟩, ht, rfl⟩
    have hg := Std.TreeMap.mem_toList_iff_getElem?_eq_some.mp ht
    obtain rfl := serversOf_keyed props id t hg
    have hm := Std.TreeMap.mem_iff_isSome_getElem?.mpr (Option.isSome_of_eq_some hg)
    refine ⟨(mem_serversOf_iff props t.id).mp hm, ?_, isDriver_iff.mpr rfl⟩
    intro f
    exact (get_driver t _ f).trans (get_serversOf hg f)
  · rintro ⟨hl, hf, hd⟩
    have hm := (mem_serversOf_iff props s.id).mpr hl
    rw [Std.TreeMap.mem_iff_isSome_getElem?, Option.isSome_iff_exists] at hm
    obtain ⟨t, ht⟩ := hm
    refine ⟨(s.id, t), Std.TreeMap.mem_toList_iff_getElem?_eq_some.mpr ht, ?_⟩
    change { t with driver := driverOf props } = s
    apply Server.eq_of_get
    · exact serversOf_keyed props s.id t ht
    · intro f
      rw [hf, ← get_serversOf ht f]
      exact get_driver t _ f
    · exact (isDriver_iff.mp hd).symm

theorem ids_listed {props : Texts} {c : Config} (h : ofProperties props = .ok c) (id : String) :
    (∃ s ∈ c.servers, s.id = id) ↔
      id = "DefaultServer" ∨ '\n' ∉ id.toList ∧ ∃ f, keyOf id f ∈ props := by
  have hi : (∃ s ∈ c.servers, s.id = id) ↔ id ∈ c.servers.map (·.id) := List.mem_map.symm
  rw [hi, ids_eq_keys h, Std.TreeMap.mem_keys, mem_serversOf_iff]

def Counts (key : String) : Prop :=
  key = "driver" ∨ ∃ id f, '\n' ∉ id.toList ∧ key = sourceOf id f

theorem Configured.congr {props props' : Texts} (h : ∀ key, Counts key → props'[key]? = props[key]?)
    {s : Server} (hs : Configured props s) : Configured props' s := by
  have hn : '\n' ∉ s.id.toList := by
    rcases hs.listed with hd | ⟨hn, -⟩
    · rw [hd]
      decide
    · exact hn
  have hk (f : Server.Field) : props'[sourceOf s.id f]? = props[sourceOf s.id f]? :=
    h _ (.inr ⟨s.id, f, hn, rfl⟩)
  have hd := h "driver" (.inl rfl)
  refine ⟨?_, ?_, ?_⟩
  · by_cases hi : s.id = "DefaultServer"
    · exact .inl hi
    · obtain ⟨-, f, hf⟩ := hs.listed.resolve_left hi
      refine .inr ⟨hn, f, ?_⟩
      have he := hk f
      rw [sourceOf, if_neg hi] at he
      rwa [Std.TreeMap.mem_iff_isSome_getElem?, he, ← Std.TreeMap.mem_iff_isSome_getElem?]
  · intro f
    rw [hs.fields, Std.TreeMap.getD_eq_getD_getElem?, Std.TreeMap.getD_eq_getD_getElem?, hk]
  · have hw := isDriver_iff.mp hs.driver
    rw [isDriver_iff, hw, driverOf, driverOf, word?, word?, hd]

theorem servers_congr {props props' : Texts} {c c' : Config} (h : ofProperties props = .ok c)
    (h' : ofProperties props' = .ok c') (hk : ∀ key, Counts key → props'[key]? = props[key]?) :
    c'.servers = c.servers := by
  have nodup {props : Texts} {c : Config} (h : ofProperties props = .ok c) : c.servers.Nodup :=
    (ids_distinct h).imp fun hi he => hi (congrArg Server.id he)
  apply List.Perm.eq_of_pairwise _ (servers_increasing h') (servers_increasing h)
  · rw [List.perm_ext_iff_of_nodup (nodup h') (nodup h)]
    intro s
    rw [mem_servers_iff h, mem_servers_iff h']
    exact ⟨Configured.congr fun key hc => (hk key hc).symm, Configured.congr hk⟩
  · intro s t _ _ hst hts
    exact absurd (String.lt_trans hst hts) (String.lt_irrefl _)

/-! ### Items -/

def itemOf? (e : String × String) : Option (String × Binding) :=
  match Binding.parse e.2 with
  | .ok b => some (e.1, b)
  | .error _ => none

theorem itemOf?_eq_some_iff {e : String × String} {name : String} {b : Binding} :
    itemOf? e = some (name, b) ↔ e.1 = name ∧ Binding.parse e.2 = .ok b := by
  unfold itemOf?
  split <;> simp_all

theorem items_withItems (c : Config) (items : Texts) :
    (c.withItems items).items = (items.toList.filterMap itemOf?).foldl (fun m e => m.insert e.1 e.2) c.items := by
  rw [withItems, Std.TreeMap.foldl_eq_foldl_toList, List.foldl_filterMap]
  change items.toList.foldl _ c.items = _
  congr 1
  funext m e
  unfold itemOf?
  cases Binding.parse e.2 <;> rfl

theorem getElem?_items {c : Config} (hc : c.items = ∅) (items : Texts) (name : String) (b : Binding) :
    (c.withItems items).items[name]? = some b ↔
      ∃ text, items[name]? = some text ∧ Binding.parse text = .ok b := by
  have hd : (items.toList.filterMap itemOf?).Pairwise fun a b => a.1 ≠ b.1 := by
    apply List.Pairwise.filterMap _ _ (toList_distinct items)
    rintro e e' hne ⟨name, b⟩ he ⟨name', b'⟩ he'
    rwa [(itemOf?_eq_some_iff.mp he).1, (itemOf?_eq_some_iff.mp he').1] at hne
  rw [items_withItems, getElem?_foldl_insert, hc, Std.TreeMap.getElem?_emptyc, Option.or_none,
    lookup_reverse_eq_some_iff_mem hd, List.mem_filterMap]
  constructor
  · rintro ⟨⟨name', text⟩, he, hb⟩
    obtain ⟨rfl, hp⟩ := itemOf?_eq_some_iff.mp hb
    exact ⟨text, Std.TreeMap.mem_toList_iff_getElem?_eq_some.mp he, hp⟩
  · rintro ⟨text, ht, hb⟩
    exact ⟨(name, text), Std.TreeMap.mem_toList_iff_getElem?_eq_some.mpr ht, itemOf?_eq_some_iff.mpr ⟨rfl, hb⟩⟩

/-- Every server but the default one comes from a key with a dot and the name of a field. -/
theorem configuration_exact {props : Texts} {c : Config} (h : ofProperties props = .ok c) (items : Texts) :
    let d := c.withItems items
    d.servers.Pairwise (fun s t => s.id < t.id) ∧
      (∀ id, (∃ s ∈ d.servers, s.id = id) ↔
        id = "DefaultServer" ∨ '\n' ∉ id.toList ∧ ∃ f, keyOf id f ∈ props) ∧
      (∀ s, s ∈ d.servers ↔ Configured props s) ∧
      (∀ props' c', ofProperties props' = .ok c' → (∀ key : String, Counts key → props'[key]? = props[key]?) →
        c'.servers = d.servers) ∧
      ∀ (name : String) (b : Binding), d.items[name]? = some b ↔
        ∃ text, items[name]? = some text ∧ Binding.parse text = .ok b := by
  intro d
  have hd : d.servers = c.servers := rfl
  rw [hd]
  refine ⟨servers_increasing h, ids_listed h, fun s => mem_servers_iff h, ?_, ?_⟩
  · intro props' c' h' hk
    exact servers_congr h h' hk
  · exact getElem?_items (items_ofProperties h) items

def siteProps : Texts :=
  (((∅ : Texts).insert "site.url.user" "reader").insert "DefaultServer.url" "lost").insert "driver" " "

def porchItems : Texts :=
  ((∅ : Texts).insert "porch" "<[SELECT 1]").insert "broken" "SELECT 1"

theorem site_and_porch_configured :
    ∃ c, ofProperties siteProps = .ok c ∧
      let d := c.withItems porchItems
      { id := "site.url", user := "reader", driver := "sqlite" } ∈ d.servers ∧
      { id := "DefaultServer", driver := "sqlite" } ∈ d.servers ∧ (¬∃ s ∈ d.servers, s.id = "site") ∧
      d.items["porch"]? = some { select := some "SELECT 1" } ∧ ∀ b, d.items["broken"]? ≠ some b := by
  obtain ⟨c, hc⟩ : ∃ c, ofProperties siteProps = .ok c := ⟨_, rfl⟩
  obtain ⟨-, hi, hs, -, hb⟩ := configuration_exact hc porchItems
  have hd : IsDriver siteProps "sqlite" := .blank (show siteProps["driver"]? = some " " from rfl) rfl
  have hp : Binding.parse "<[SELECT 1]" = .ok { select := some "SELECT 1" } :=
    (Binding.SpelledOut.single .select "SELECT 1").parse (by decide)
  have hn : ¬∃ f, keyOf "site" f ∈ siteProps := by
    rintro ⟨f, hf⟩
    cases f <;> exact absurd hf (by decide)
  refine ⟨c, hc, (hs _).mpr ⟨.inr ⟨by decide, .user, by decide⟩, ?_, hd⟩,
    (hs _).mpr ⟨.inl rfl, ?_, hd⟩, ?_, (hb _ _).mpr ⟨_, rfl, hp⟩, ?_⟩
  · intro f
    cases f <;> rfl
  · intro f
    cases f <;> rfl
  · rw [hi]
    rintro (he | ⟨-, hf⟩)
    · exact absurd he (by decide)
    · exact hn hf
  · intro b he
    obtain ⟨text, ht, hr⟩ := (hb _ _).mp he
    cases ht
    cases hr

end Config

end ItemGateway
