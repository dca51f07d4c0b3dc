import ItemGateway.ConfigFile
import ItemGateway.Proofs.ConfiguredServers
import ItemGateway.Proofs.IndistinctLinks
import Mathlib.Data.List.Forall2

namespace ItemGateway

inductive Concur {α : Type} (R : α → α → Prop) : Except Fault α → Except Fault α → Prop
  | error (f : Fault) : Concur R (.error f) (.error f)
  | ok {a b : α} (h : R a b) : Concur R (.ok a) (.ok b)

theorem Concur.map {α β : Type} {R : α → α → Prop} {S : β → β → Prop} {f g : α → β} {a b : Except Fault α}
    (h : Concur R a b) (hf : ∀ a b, R a b → S (f a) (g b)) : Concur S (a.map f) (b.map g) := by
  cases h with
  | error fault => exact .error fault
  | ok hr => exact .ok (hf _ _ hr)

theorem forall₂_toList {β : Type} {R : String → β → β → Prop} {m m' : Std.TreeMap String β}
    (h : ∀ key : String, Option.Rel (R key) m[key]? m'[key]?) :
    List.Forall₂ (fun a b => a.1 = b.1 ∧ R a.1 a.2 b.2) m.toList m'.toList := by
  -- With the values forgotten, the two maps are the same.
  have hunit : (m.map fun _ _ => ()).toList = (m'.map fun _ _ => ()).toList := by
    apply Std.TreeMap.Equiv.toList_eq
    apply Std.TreeMap.Equiv.of_forall_constGet?_eq
    intro key
    rw [Std.TreeMap.getElem?_map, Std.TreeMap.getElem?_map]
    have hr := h key
    generalize m[key]? = a, m'[key]? = b at hr
    cases hr <;> rfl
  have hkeys : List.Forall₂ (fun a b : String × β => a.1 = b.1) m.toList m'.toList := by
    rw [Std.TreeMap.toList_map, Std.TreeMap.toList_map, ← List.forall₂_eq_eq_eq,
      List.forall₂_map_left_iff, List.forall₂_map_right_iff] at hunit
    exact hunit.imp fun _ _ he => congrArg Prod.fst he
  refine List.forall₂_iff_zip.mpr ⟨hkeys.length_eq, ?_⟩
  intro a b hab
  have hk := List.forall₂_zip hkeys hab
  obtain ⟨ha, hb⟩ := List.of_mem_zip hab
  have hr := h a.1
  rw [Std.TreeMap.mem_toList_iff_getElem?_eq_some.mp ha, hk,
    Std.TreeMap.mem_toList_iff_getElem?_eq_some.mp hb] at hr
  cases hr with
  | some hr => exact ⟨hk, hk ▸ hr⟩

theorem Server.Indistinct.set {s t : Server} (h : s.Indistinct t) (value : String) (f : Server.Field) :
    (s.set value f).Indistinct (t.set value f) := by
  cases f with
  | url => exact ⟨h.id, rfl, h.user, h.driver, h.blank⟩
  | user => exact ⟨h.id, h.url, rfl, h.driver, h.blank⟩
  | password => exact ⟨h.id, h.url, h.user, h.driver, Iff.rfl⟩

namespace Config

structure Indistinct (c d : Config) : Prop where
  servers : List.Forall₂ Server.Indistinct c.servers d.servers
  interval : c.interval = d.interval
  driver : c.driver = d.driver
  items : c.items = d.items
  rejected : c.rejected = d.rejected

theorem Indistinct.log {c d : Config} (h : c.Indistinct d) : c.log = d.log := by
  rw [Config.log, Config.log, h.rejected]

theorem Indistinct.withItems {c d : Config} (h : c.Indistinct d) {items items' : Texts}
    (hi : ∀ name : String, items[name]? = items'[name]?) :
    (c.withItems items).Indistinct (d.withItems items') := by
  have hl : items.toList = items'.toList := (Std.TreeMap.Equiv.of_forall_constGet?_eq hi).toList_eq
  refine ⟨h.servers, h.interval, h.driver, ?_, ?_⟩
  · rw [Config.withItems, Config.withItems, h.items, Std.TreeMap.foldl_eq_foldl_toList,
      Std.TreeMap.foldl_eq_foldl_toList, hl]
  · rw [Config.withItems, Config.withItems, h.rejected, hl]

def Paired (m m' : Std.TreeMap String Server) : Prop :=
  ∀ id : String, Option.Rel Server.Indistinct m[id]? m'[id]?

namespace Paired

variable {m m' : Std.TreeMap String Server}

theorem insert (h : Paired m m') (id : String) {s t : Server} (hs : s.Indistinct t) :
    Paired (m.insert id s) (m'.insert id t) := by
  intro id'
  rw [Std.TreeMap.getElem?_insert, Std.TreeMap.getElem?_insert]
  split
  · exact .some hs
  · exact h id'

theorem getD (h : Paired m m') (id : String) (s : Server) :
    ((m[id]?).getD s).Indistinct ((m'[id]?).getD s) := by
  have hr := h id
  generalize m[id]? = a, m'[id]? = b at hr
  cases hr with
  | some hs => exact hs
  | none => exact .refl s

theorem values (h : Paired m m') : List.Forall₂ Server.Indistinct m.values m'.values := by
  rw [values_eq_map_toList, values_eq_map_toList, List.forall₂_map_left_iff, List.forall₂_map_right_iff]
  exact (forall₂_toList h).imp fun _ _ hs => hs.2

end Paired

def NamesPassword (key : String) : Prop :=
  key = "password" ∨ ∃ id, serverKey? key = some (id, .password)

def Veiled (key value value' : String) : Prop :=
  value = value' ∨ NamesPassword key ∧ (Text.trimmed value = "" ↔ Text.trimmed value' = "")

def VeiledTexts (props props' : Texts) : Prop :=
  ∀ key : String, Option.Rel (Veiled key) props[key]? props'[key]?

theorem Paired.addProperty {m m' : Std.TreeMap String Server} (h : Paired m m') {key value value' : String}
    (hv : Veiled key value value') : Paired (addProperty m key value) (addProperty m' key value') := by
  rcases hv with rfl | ⟨rfl | ⟨id, hk⟩, hb⟩
  · unfold Config.addProperty
    split
    · exact h
    · next id f hk => exact h.insert id ((h.getD id _).set value f)
  · have hk : serverKey? "password" = none := by decide
    simp only [Config.addProperty, hk]
    exact h
  · simp only [Config.addProperty, hk]
    have hs := h.getD id { id }
    exact h.insert id ⟨hs.id, hs.url, hs.user, hs.driver, hb⟩

namespace VeiledTexts

variable {props props' : Texts}

theorem get_of_other (h : VeiledTexts props props') {key : String} (hk : key ≠ "password")
    (hs : serverKey? key = none) : props[key]? = props'[key]? := by
  have hr := h key
  generalize props[key]? = a, props'[key]? = b at hr
  cases hr with
  | none => rfl
  | some hv =>
    rcases hv with rfl | ⟨rfl | ⟨id, hid⟩, -⟩
    · rfl
    · exact absurd rfl hk
    · rw [hs] at hid
      cases hid

theorem word? (h : VeiledTexts props props') {key : String} (hk : key ≠ "password")
    (hs : serverKey? key = none) : word? props key = word? props' key := by
  rw [Config.word?, Config.word?, h.get_of_other hk hs]

theorem getD_of_other (h : VeiledTexts props props') {key : String} (hk : key ≠ "password")
    (hs : serverKey? key = none) (value : String) : props.getD key value = props'.getD key value := by
  rw [Std.TreeMap.getD_eq_getD_getElem?, Std.TreeMap.getD_eq_getD_getElem?, h.get_of_other hk hs]

theorem defaultOf (h : VeiledTexts props props') : (defaultOf props).Indistinct (defaultOf props') where
  id := rfl
  url := h.getD_of_other (by decide) (by decide) ""
  user := h.getD_of_other (by decide) (by decide) ""
  driver := rfl
  blank := by
    have hr := h "password"
    simp only [Config.defaultOf, Std.TreeMap.getD_eq_getD_getElem?]
    generalize props["password"]? = a, props'["password"]? = b at hr
    cases hr with
    | none => exact Iff.rfl
    | some hv =>
      rcases hv with rfl | ⟨-, hb⟩
      · exact Iff.rfl
      · exact hb

theorem serversOf (h : VeiledTexts props props') : Paired (serversOf props) (serversOf props') := by
  have hempty : Paired ∅ ∅ := fun _ => by simp
  rw [Config.serversOf, Config.serversOf, Std.TreeMap.foldl_eq_foldl_toList,
    Std.TreeMap.foldl_eq_foldl_toList]
  apply Paired.insert _ defaultServer h.defaultOf
  apply List.rel_foldl (P := Paired) _ hempty (forall₂_toList h)
  rintro m m' hm ⟨key, value⟩ ⟨_, value'⟩ ⟨rfl, hv⟩
  exact hm.addProperty hv

theorem ofProperties (h : VeiledTexts props props') :
    Concur Indistinct (ofProperties props) (ofProperties props') := by
  have he : props.isEmpty = props'.isEmpty := by
    rw [← Std.TreeMap.isEmpty_toList, ← Std.TreeMap.isEmpty_toList]
    have hl := forall₂_toList h
    generalize props.toList = kvs, props'.toList = kvs' at hl
    cases hl <;> rfl
  have hinterval : intervalOf props = intervalOf props' := by
    rw [intervalOf, intervalOf, h.word? (by decide) (by decide)]
  have hdriver : driverOf props = driverOf props' := by
    rw [driverOf, driverOf, h.word? (by decide) (by decide)]
  have hservers := h.serversOf.values
  simp only [Config.ofProperties, ← he, ← hinterval, ← hdriver]
  split
  · exact .error _
  rcases intervalOf props with f | interval
  · exact .error f
  refine .ok ⟨?_, rfl, rfl, rfl, rfl⟩
  rw [List.forall₂_map_left_iff, List.forall₂_map_right_iff]
  exact hservers.imp fun _ _ hs => ⟨hs.id, hs.url, hs.user, rfl, hs.blank⟩

theorem insert (h : VeiledTexts props props') {key value value' : String} (hv : Veiled key value value') :
    VeiledTexts (props.insert key value) (props'.insert key value') := by
  intro key'
  rw [Std.TreeMap.getElem?_insert, Std.TreeMap.getElem?_insert]
  split
  · next hc =>
    rw [← Std.LawfulEqCmp.eq_of_compare hc]
    exact .some hv
  · exact h key'

end VeiledTexts

end Config

namespace ConfigFile

def Veiled (key : String) (v v' : Toml.Value) : Prop :=
  v = v' ∨ Config.NamesPassword key ∧ ∃ text text', v.scalar? = some text ∧ v'.scalar? = some text' ∧
    (Text.trimmed text = "" ↔ Text.trimmed text' = "")

structure Indistinct (file file' : ConfigFile) : Prop where
  properties : ∀ key : String, Option.Rel (Veiled key) file.properties[key]? file'.properties[key]?
  items : ∀ name : String, file.items[name]? = file'.items[name]?

theorem Indistinct.texts {file file' : ConfigFile} (h : file.Indistinct file') :
    Concur Config.VeiledTexts (texts file.properties) (texts file'.properties) := by
  have hempty : Config.VeiledTexts ∅ ∅ := fun _ => by simp
  rw [ConfigFile.texts, ConfigFile.texts, Std.TreeMap.foldl_eq_foldl_toList, Std.TreeMap.foldl_eq_foldl_toList]
  apply List.rel_foldl (P := Concur Config.VeiledTexts) _ (.ok hempty) (forall₂_toList h.properties)
  rintro _ _ (f | hprops) ⟨key, v⟩ ⟨_, v'⟩ ⟨rfl, hv⟩
  · exact .error f
  rcases hv with rfl | ⟨hk, text, text', hv, hv', hb⟩
  · dsimp only
    rcases v.scalar? with _ | text
    · exact .error _
    · exact .ok (hprops.insert (.inl rfl))
  · dsimp only at hv hv' ⊢
    rw [hv, hv']
    exact .ok (hprops.insert (.inr ⟨hk, hb⟩))

end ConfigFile

theorem Config.parse_indistinct {text text' : String} {file file' : ConfigFile}
    (hp : ConfigFile.parse? text = some file) (hp' : ConfigFile.parse? text' = some file')
    (h : file.Indistinct file') : Concur Config.Indistinct (Config.parse text) (Config.parse text') := by
  have ht := h.texts
  simp only [Config.parse, hp, hp']
  generalize ConfigFile.texts file.properties = a, ConfigFile.texts file'.properties = b at ht
  cases ht with
  | error f => exact .error f
  | ok hprops => exact hprops.ofProperties.map fun _ _ hc => hc.withItems h.items

end ItemGateway
