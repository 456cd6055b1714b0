import ApiReview.Proofs.Renaming
import ApiReview.Proofs.Table
import Mathlib.Data.List.Perm.Subperm

/-! Which identifiers a table has in the end. A list that is enough for the references of a schema, and
for those of all that the list leads to, has all that reading the schema comes by; and reading with
enough room comes to a result then. -/
namespace ApiReview.Schema

/-- A reading that neither looks at the table nor changes it. -/
def Steady {α : Type} (m : Reading α) : Prop := ∃ x : Except Error α, ∀ t, m t = x.map (·,t)

theorem Steady.ok {α : Type} (a : α) : Steady (pure a : Reading α) := ⟨.ok a,fun _ => rfl⟩

theorem Steady.refuse {α : Type} (e : Error) : Steady (throw e : Reading α) :=
  ⟨.error e,fun _ => rfl⟩

theorem Steady.bind {α β : Type} {m : Reading α} {f : α → Reading β} (steady : Steady m)
    (rest : ∀ a, Steady (f a)) : Steady (m >>= f) := by
  obtain ⟨x,same⟩ := steady
  cases x with
  | error e => exact ⟨.error e,fun t => by simp [Bind.bind,StateT.bind,same,Except.bind,Except.map]⟩
  | ok a =>
    obtain ⟨y,same'⟩ := rest a
    exact ⟨y,fun t => by simp [Bind.bind,StateT.bind,same,same',Except.bind,Except.map]⟩

theorem steady_congruent : Congruent fun _ m _ => Steady m :=
  ⟨Steady.ok,Steady.refuse,Steady.bind⟩

section
variable {α β : Type} {m : Reading α} {f : α → Reading β}

theorem Gives.unique {a b : α} (one : Gives m a) (two : Gives m b) : a = b := by
  cases (one {}).symm.trans (two {})
  rfl

theorem Reading.map_iff {g : α → β} {t : Table} {p : β × Table} :
    (g <$> m) t = .ok p ↔ ∃ q, m t = .ok q ∧ p = (g q.1,q.2) := by
  rw [map_eq_pure_bind,Reading.bind_iff]
  refine exists_congr fun q => and_congr_right fun _ => ⟨?_,?_⟩
  · rintro ⟨⟩
    rfl
  · rintro rfl
    rfl

theorem Gives.map (g : α → β) {a : α} (gives : Gives m a) : Gives (g <$> m) (g a) := by
  rw [map_eq_pure_bind]
  exact gives.bind fun _ => rfl

theorem Steady.gives (steady : Steady m) {a : α} (yields : Yields m a) : Gives m a := by
  obtain ⟨x,same⟩ := steady
  obtain ⟨t,u,done⟩ := yields
  rw [same] at done
  obtain ⟨b,rfl,pair⟩ := Success.map_iff.mp done
  cases pair
  exact same

theorem Steady.map {g : α → β} (steady : Steady m) : Steady (g <$> m) := by
  rw [map_eq_pure_bind]
  exact steady.bind fun a => .ok (g a)

theorem Steady.gives_bind (steady : Steady m) (rest : ∀ a, Steady (f a)) {b : β}
    (gives : Gives (m >>= f) b) : ∃ a, Gives m a ∧ Gives (f a) b := by
  obtain ⟨a,one,two⟩ := (Yields.of_gives gives).bind
  exact ⟨a,steady.gives one,(rest a).gives two⟩

theorem Gives.mapM {list : List α} {found : List β}
    (each : List.Forall₂ (fun a b => Gives (f a) b) list found) : Gives (list.mapM f) found := by
  induction each with
  | nil => exact fun _ => rfl
  | cons one _ ih =>
    rw [List.mapM_cons]
    exact one.bind (ih.bind fun _ => rfl)

theorem Steady.mapM {list : List α} (each : ∀ a ∈ list, Steady (f a)) : Steady (list.mapM f) := by
  induction list with
  | nil => exact .ok []
  | cons a rest ih =>
    obtain ⟨one,others⟩ := List.forall_mem_cons.mp each
    rw [List.mapM_cons]
    exact one.bind fun _ => (ih others).bind fun _ => .ok _

theorem Steady.gives_mapM {list : List α} {found : List β} (each : ∀ a ∈ list, Steady (f a))
    (gives : Gives (list.mapM f) found) : List.Forall₂ (fun a b => Gives (f a) b) list found := by
  induction list generalizing found with
  | nil =>
    cases gives {}
    exact .nil
  | cons a rest ih =>
    obtain ⟨one,others⟩ := List.forall_mem_cons.mp each
    rw [List.mapM_cons] at gives
    obtain ⟨b,first,gives⟩ := one.gives_bind (fun b => (Steady.mapM others).bind fun _ => .ok _) gives
    obtain ⟨bs,later,last⟩ := (Steady.mapM others).gives_bind (fun _ => .ok _) gives
    cases last {}
    exact .cons first (ih others later)

end

section
variable {keys : List Uri}

theorem lookUp_steady (base : Uri) (text : String) : Steady (lookUp keys base text) := by
  refine Steady.bind (steady_congruent.lift (resolve base text)) fun uri => ?_
  split
  · exact .ok _
  · exact .refuse _

theorem finished_steady (keys : List Uri) :
    Setting.Alike (fun _ m _ => Steady m) (finished keys) (finished keys) :=
  ⟨rfl,lookUp_steady⟩

/-- The identifiers of a table are in a list, and each is there once. -/
structure Table.Inside (keys : List Uri) (t : Table) : Prop where
  subset : ∀ uri ∈ t.keys.toList, uri ∈ keys
  nodup : t.keys.toList.Nodup

theorem Table.Inside.size_le {t : Table} (inside : t.Inside keys) : t.keys.size ≤ keys.length :=
  (List.subperm_of_subset inside.nodup inside.subset).length_le

theorem Table.Inside.open {t : Table} (inside : t.Inside keys) {uri : Uri} (known : uri ∈ keys)
    (new : t.keys.idxOf? uri = none) : (t.open uri).Inside keys := by
  have absent : uri ∉ t.keys.toList := by
    rw [← idxOf?_toList] at new
    simpa using new
  constructor
  · intro k listed
    rw [Table.open,Array.toList_push] at listed
    rcases List.mem_append.mp listed with old | same
    · exact inside.subset k old
    · exact List.mem_singleton.mp same ▸ known
  · rw [Table.open,Array.toList_push]
    exact List.nodup_append.mpr ⟨inside.nodup,by simp,fun a old b same => by
      rw [List.mem_singleton.mp same]
      exact fun again => absent (again ▸ old)⟩

/-- What the second reading comes to without a table, the first one comes to as well if it comes to a
result, and with enough room it does. The identifiers stay in a list. -/
def Stays (keys : List Uri) (n : Nat) (α : Type) (m m' : Reading α) : Prop :=
  Steady m' ∧ ∀ a', Gives m' a' → ∀ t : Table, t.Inside keys →
    (∀ a u, m t = .ok (a,u) → a = a' ∧ u.Inside keys ∧ t.keys.size ≤ u.keys.size) ∧
    (keys.length < n + t.keys.size → ∃ p, m t = .ok p)

theorem stays_congruent (keys : List Uri) (n : Nat) : Congruent (Stays keys n) where
  ok a := by
    refine ⟨.ok a,fun a' gives t inside => ⟨?_,fun _ => ⟨_,rfl⟩⟩⟩
    rintro b u ⟨⟩
    cases gives t
    exact ⟨rfl,inside,Nat.le_refl _⟩
  refuse e := ⟨.refuse e,fun a' gives t => by cases gives t⟩
  bind := by
    rintro α β m m' f f' ⟨steady,first⟩ rest
    refine ⟨steady.bind fun a => (rest a).1,?_⟩
    intro b' gives t inside
    obtain ⟨a',one,two⟩ := steady.gives_bind (fun a => (rest a).1) gives
    obtain ⟨comes,fits⟩ := first a' one t inside
    constructor
    · intro b v done
      obtain ⟨⟨a,u⟩,done,later⟩ := Reading.bind_iff.mp done
      obtain ⟨rfl,inside',grown⟩ := comes a u done
      obtain ⟨same,inside'',more⟩ := ((rest a).2 b' two u inside').1 b v later
      exact ⟨same,inside'',Nat.le_trans grown more⟩
    · intro room
      obtain ⟨⟨a,u⟩,done⟩ := fits room
      obtain ⟨rfl,inside',grown⟩ := comes a u done
      obtain ⟨p,later⟩ := ((rest a).2 b' two u inside').2 (by omega)
      exact ⟨p,Reading.bind_iff.mpr ⟨_,done,later⟩⟩

/-- The list is enough for the references of all that it leads to. -/
def Closed (r : Resources) (keys : List Uri) : Prop :=
  ∀ uri ∈ keys, ∃ target s, r.target uri = .ok target ∧
    Gives (ofJson (finished keys) target.base target.schema) s

/-- A setting in which all places have the same number, so that tables in any order do. -/
abbrev Setting.blind (S : Setting) : Setting := S.rename fun _ => 0

variable {r : Resources}

theorem followWithin_stays (closed : Closed r keys) (n : Nat) (base : Uri) (text : String) :
    Stays keys n Nat ((fun _ => 0) <$> followWithin r false n base text)
      ((fun _ => 0) <$> lookUp keys base text) := by
  induction n generalizing base text with
  | zero =>
    refine ⟨(lookUp_steady base text).map,fun a' gives t inside => ⟨?_,fun room => ?_⟩⟩
    · intro a u done
      obtain ⟨q,⟨⟩,_⟩ := Reading.map_iff.mp done
    · have most := inside.size_le
      omega
  | succ n ih =>
    refine ⟨(lookUp_steady base text).map,fun a' gives t inside => ?_⟩
    obtain ⟨⟨i,t'⟩,found,same⟩ := Reading.map_iff.mp (gives {})
    obtain rfl : a' = 0 := congrArg Prod.fst same
    obtain ⟨uri,resolved,place⟩ := lookUp_yields ⟨{},t',found⟩
    obtain ⟨target,s,led,reads⟩ := closed uri (List.mem_of_getElem? place)
    have alike : Setting.Alike (Stays keys n) (Setting.blind ⟨followWithin r false n,false⟩)
        (finished keys).blind := ⟨rfl,ih⟩
    have inner := ofJson_alike (stays_congruent keys n) alike target.base target.schema
    rw [ofJson_rename,ofJson_rename] at inner
    constructor
    · intro a u done
      obtain ⟨⟨j,u'⟩,followed,pair⟩ := Reading.map_iff.mp done
      cases pair
      refine ⟨rfl,?_⟩
      obtain ⟨uri',resolved',⟨_,rfl⟩ | ⟨new,target',s',v,led',read,_,rfl⟩⟩ :=
        followWithin_cases followed
      · exact ⟨inside,Nat.le_refl _⟩
      · cases resolved.symm.trans resolved'
        cases led.symm.trans led'
        have opened := inside.open (List.mem_of_getElem? place) new
        obtain ⟨_,kept,more⟩ := (inner.2 _ (reads.map _) _ opened).1 _ _
          (Reading.map_iff.mpr ⟨_,read,rfl⟩)
        refine ⟨⟨kept.subset,kept.nodup⟩,Nat.le_of_succ_le ?_⟩
        simpa [Table.open,Table.fill] using more
    · intro room
      cases known : t.keys.idxOf? uri with
      | some j => exact ⟨_,Reading.map_iff.mpr ⟨_,followWithin_known n resolved known,rfl⟩⟩
      | none =>
        have opened := inside.open (List.mem_of_getElem? place) known
        obtain ⟨p,done⟩ := (inner.2 _ (reads.map _) _ opened).2 (by
          simp only [Table.open,Array.size_push]
          omega)
        obtain ⟨q,read,_⟩ := Reading.map_iff.mp done
        have followed : followWithin r false (n + 1) base text t =
            .ok (t.keys.size,q.2.fill t.keys.size q.1) := by
          rw [followWithin_new n resolved known led]
          exact Success.map_iff.mpr ⟨q,read,rfl⟩
        exact ⟨_,Reading.map_iff.mpr ⟨_,followed,rfl⟩⟩

/-- A table has nothing that is not in a list that is enough, and with enough room there is a table. -/
theorem readTable_inside (closed : Closed r keys) {schema : Json} {s : Schema}
    (reads : Gives (ofJson (finished keys) defaultBase schema) s) :
    (∀ root t, readTable r schema = .ok (root,t) → t.Inside keys) ∧
    (keys.length < memoryLimit → ∃ p, readTable r schema = .ok p) := by
  have alike : Setting.Alike (Stays keys memoryLimit)
      (Setting.blind ⟨followWithin r false memoryLimit,false⟩) (finished keys).blind :=
    ⟨rfl,followWithin_stays closed memoryLimit⟩
  have stays := ofJson_alike (stays_congruent keys memoryLimit) alike defaultBase schema
  rw [ofJson_rename,ofJson_rename] at stays
  have empty : Table.Inside keys {} := ⟨by simp,by simp⟩
  obtain ⟨comes,fits⟩ := stays.2 _ (reads.map _) {} empty
  constructor
  · intro root t done
    exact (comes _ t (Reading.map_iff.mpr ⟨_,done,rfl⟩)).2.1
  · intro room
    obtain ⟨p,done⟩ := fits (Nat.lt_add_right _ room)
    obtain ⟨q,read,_⟩ := Reading.map_iff.mp done
    exact ⟨q,read⟩

end
end ApiReview.Schema
