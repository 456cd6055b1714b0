import ApiReview.Proofs.Tree

/-! Values that become others. What a YAML value holds is all in the JSON value that it becomes, entry
by entry, unless two keys of a mapping have one text: then the later entry takes the place of the
earlier one, and nothing is said. -/
namespace ApiReview.Yaml.Value

mutual

/-- A JSON value holds what a YAML value does: numbers are finite, an array has the items in order,
and an object has the entries in order, each under the text of its key. Tags do not count. -/
def Mirrors : Value → Json → Prop
  | .null, j => j = .null
  | .bool b, j => j = .bool b
  | .number n, j => ∃ m, n = .finite m ∧ j = .number m
  | .string s, j => j = .string s
  | .sequence items, j => ∃ js, j = .array js ∧ MirrorsItems items js
  | .mapping entries, j => ∃ ms, j = .object ms ∧ MirrorsEntries entries ms
  | .tagged _ v, j => Mirrors v j

def MirrorsItems : List Value → List Json → Prop
  | [], js => js = []
  | v :: rest, js => ∃ j others, js = j :: others ∧ Mirrors v j ∧ MirrorsItems rest others

def MirrorsEntries : List (Value × Value) → List (String × Json) → Prop
  | [], ms => ms = []
  | (k,v) :: rest, ms => ∃ name j others, ms = (name,j) :: others ∧ keyText k = .ok name ∧
    Mirrors v j ∧ MirrorsEntries rest others

end

mutual

/-- All keys in the value have texts, and all numbers in it are finite. -/
def Convertible : Value → Prop
  | .number n => ∃ m, n = .finite m
  | .sequence items => ConvertibleItems items
  | .mapping entries => ConvertibleEntries entries
  | .tagged _ v => Convertible v
  | _ => True

def ConvertibleItems : List Value → Prop
  | [] => True
  | v :: rest => Convertible v ∧ ConvertibleItems rest

def ConvertibleEntries : List (Value × Value) → Prop
  | [] => True
  | (k,v) :: rest => (∃ name, keyText k = .ok name) ∧ Convertible v ∧ ConvertibleEntries rest

end

mutual

/-- No two keys of a mapping in the value have one text. -/
def KeysApart : Value → Prop
  | .sequence items => KeysApartItems items
  | .mapping entries => KeysApartEntries entries
  | .tagged _ v => KeysApart v
  | _ => True

def KeysApartItems : List Value → Prop
  | [] => True
  | v :: rest => KeysApart v ∧ KeysApartItems rest

def KeysApartEntries : List (Value × Value) → Prop
  | [] => True
  | (k,v) :: rest => (∀ e ∈ rest, ∀ name, keyText k = .ok name → keyText e.1 ≠ .ok name) ∧
    KeysApart v ∧ KeysApartEntries rest

end

/-! Which values become others. -/

mutual

theorem toJson_ok_iff : ∀ v : Value, (∃ j, toJson v = .ok j) ↔ Convertible v
  | .null | .bool _ | .string _ => by simp [toJson,Convertible]
  | .number n => by cases n <;> simp [toJson,toNumber,Convertible,Except.map]
  | .sequence items => by
    simp only [toJson,Success.map_iff,Convertible,← toItems_ok_iff items]
    exact ⟨fun ⟨_,js,done,_⟩ => ⟨js,done⟩,fun ⟨js,done⟩ => ⟨_,js,done,rfl⟩⟩
  | .mapping entries => by
    simp only [toJson,Success.map_iff,Convertible,← toMembers_ok_iff entries []]
    exact ⟨fun ⟨_,ms,done,_⟩ => ⟨ms,done⟩,fun ⟨ms,done⟩ => ⟨_,ms,done,rfl⟩⟩
  | .tagged _ v => by rw [toJson,Convertible]; exact toJson_ok_iff v

theorem toItems_ok_iff : ∀ items : List Value, (∃ js, toItems items = .ok js) ↔
    ConvertibleItems items
  | [] => by simp [toItems,ConvertibleItems]
  | v :: rest => by
    rw [ConvertibleItems,← toJson_ok_iff v,← toItems_ok_iff rest]
    simp only [toItems,Success.bind_iff]
    constructor
    · rintro ⟨_,j,one,others,all,_⟩
      exact ⟨⟨j,one⟩,others,all⟩
    · rintro ⟨⟨j,one⟩,others,all⟩
      exact ⟨_,j,one,others,all,rfl⟩

theorem toMembers_ok_iff : ∀ (entries : List (Value × Value)) (read : List (String × Json)),
    (∃ ms, toMembers read entries = .ok ms) ↔ ConvertibleEntries entries
  | [], read => by simp [toMembers,ConvertibleEntries]
  | (k,v) :: rest, read => by
    rw [ConvertibleEntries,← toJson_ok_iff v]
    simp only [toMembers,Success.bind_iff]
    constructor
    · rintro ⟨ms,name,key,j,one,all⟩
      exact ⟨⟨name,key⟩,⟨j,one⟩,(toMembers_ok_iff rest _).mp ⟨ms,all⟩⟩
    · rintro ⟨⟨name,key⟩,⟨j,one⟩,others⟩
      obtain ⟨ms,all⟩ := (toMembers_ok_iff rest (Json.insert name j read)).mpr others
      exact ⟨ms,name,key,j,one,all⟩

end

/-! What they become. -/

mutual

theorem toJson_mirrors : ∀ (v : Value) (j : Json), toJson v = .ok j → KeysApart v → Mirrors v j
  | .null, j, done, _ | .bool _, j, done, _ | .string _, j, done, _ => by
    cases done
    rfl
  | .number n, j, done, _ => by
    obtain ⟨m,finite,rfl⟩ := Success.map_iff.mp done
    cases n with
    | finite n =>
      cases finite
      exact ⟨_,rfl,rfl⟩
    | infinity _ => cases finite
    | notANumber => cases finite
  | .sequence items, j, done, apart => by
    obtain ⟨js,all,rfl⟩ := Success.map_iff.mp done
    exact ⟨js,rfl,toItems_mirrors items js all apart⟩
  | .mapping entries, j, done, apart => by
    obtain ⟨ms,all,rfl⟩ := Success.map_iff.mp done
    obtain ⟨own,rfl,mirrors⟩ := toMembers_mirrors entries [] ms all apart (by simp)
    exact ⟨_,rfl,mirrors⟩
  | .tagged _ v, j, done, apart => toJson_mirrors v j done apart

theorem toItems_mirrors : ∀ (items : List Value) (js : List Json), toItems items = .ok js →
    KeysApartItems items → MirrorsItems items js
  | [], js, done, _ => by
    cases done
    rfl
  | v :: rest, js, done, apart => by
    obtain ⟨j,one,done⟩ := Success.bind_iff.mp done
    obtain ⟨others,all,done⟩ := Success.bind_iff.mp done
    cases done
    exact ⟨j,others,rfl,toJson_mirrors v j one apart.1,toItems_mirrors rest others all apart.2⟩

/-- Names that are new each time are never looked for in vain: the members before stay as they are. -/
theorem toMembers_mirrors : ∀ (entries : List (Value × Value)) (read ms : List (String × Json)),
    toMembers read entries = .ok ms → KeysApartEntries entries →
    (∀ e ∈ entries, ∀ name, keyText e.1 = .ok name → name ∉ read.map Prod.fst) →
    ∃ own, ms = read ++ own ∧ MirrorsEntries entries own
  | [], read, ms, done, _, _ => by
    cases done
    exact ⟨[],by simp,rfl⟩
  | (k,v) :: rest, read, ms, done, apart, new => by
    obtain ⟨name,key,done⟩ := Success.bind_iff.mp done
    obtain ⟨j,one,done⟩ := Success.bind_iff.mp done
    rw [Json.insert_new (new (k,v) List.mem_cons_self name key)] at done
    obtain ⟨own,rfl,mirrors⟩ := toMembers_mirrors rest _ ms done apart.2.2 (by
      intro e later other text old
      rw [List.map_append,List.mem_append] at old
      rcases old with old | same
      · exact new e (List.mem_cons_of_mem _ later) other text old
      · obtain rfl : other = name := by simpa using same
        exact apart.1 e later other key text)
    refine ⟨(name,j) :: own,by simp,name,j,own,rfl,key,?_,mirrors⟩
    exact toJson_mirrors v j one apart.2.1

end

theorem mirrorsEntries_name : ∀ {entries : List (Value × Value)} {ms : List (String × Json)},
    MirrorsEntries entries ms → ∀ e ∈ entries, ∀ name, keyText e.1 = .ok name →
    name ∈ ms.map Prod.fst
  | (k,v) :: rest, _, mirrors, e, member, name, text => by
    obtain ⟨own,j,others,rfl,key,_,mirrors⟩ := mirrors
    rcases List.mem_cons.mp member with rfl | later
    · obtain rfl : own = name := Except.ok.inj (key.symm.trans text)
      simp
    · exact List.mem_cons_of_mem _ (mirrorsEntries_name mirrors e later name text)

mutual

theorem keysApart_of_mirrors : ∀ (v : Value) (j : Json), Mirrors v j → j.Distinct → KeysApart v
  | .null, _, _, _ | .bool _, _, _, _ | .number _, _, _, _ | .string _, _, _, _ => trivial
  | .sequence items, _, ⟨js,same,mirrors⟩, distinct =>
    keysApartItems_of_mirrors items js mirrors (by subst same; exact distinct)
  | .mapping entries, _, ⟨ms,same,mirrors⟩, distinct =>
    keysApartEntries_of_mirrors entries ms mirrors (by subst same; exact distinct)
  | .tagged _ v, j, mirrors, distinct => keysApart_of_mirrors v j mirrors distinct

theorem keysApartItems_of_mirrors : ∀ (items : List Value) (js : List Json),
    MirrorsItems items js → (Json.array js).Distinct → KeysApartItems items
  | [], _, _, _ => trivial
  | v :: rest, _, ⟨j,others,same,here,mirrors⟩, distinct => by
    subst same
    exact ⟨keysApart_of_mirrors v j here distinct.1,
      keysApartItems_of_mirrors rest others mirrors distinct.2⟩

theorem keysApartEntries_of_mirrors : ∀ (entries : List (Value × Value)) (ms : List (String × Json)),
    MirrorsEntries entries ms → (Json.object ms).Distinct → KeysApartEntries entries
  | [], _, _, _ => trivial
  | (k,v) :: rest, _, ⟨name,j,others,same,key,here,mirrors⟩, distinct => by
    subst same
    obtain ⟨names,values⟩ := distinct
    obtain ⟨absent,names⟩ := List.nodup_cons.mp names
    refine ⟨fun e later other text again => ?_,keysApart_of_mirrors v j here values.1,
      keysApartEntries_of_mirrors rest others mirrors ⟨names,values.2⟩⟩
    obtain rfl : name = other := Except.ok.inj (key.symm.trans text)
    exact absent (mirrorsEntries_name mirrors e later name again)

end

/-- A value becomes another if and only if all its keys have texts and all its numbers are finite.
Nothing of it is lost then if and only if no two keys of a mapping have one text. -/
theorem toJson_mirrors_iff (v : Value) : ((∃ j, v.toJson = .ok j) ↔ v.Convertible) ∧
    ∀ j, v.toJson = .ok j → (v.Mirrors j ↔ v.KeysApart) :=
  ⟨toJson_ok_iff v,fun j done =>
    ⟨fun mirrors => keysApart_of_mirrors v j mirrors (toJson_distinct v j done),
      toJson_mirrors v j done⟩⟩

/-- Two keys with one text, a number and a string. -/
def twoKeys : Value :=
  .mapping [(.number (.finite (.integer 1 (by decide))),.string "a"),(.string "1",.string "b")]

/-- The first of the two entries is lost without an error. -/
theorem entry_lost : twoKeys.toJson = .ok (.object [("1",.string "b")]) ∧
    ¬ twoKeys.Mirrors (.object [("1",.string "b")]) ∧
    Document.read "1: a\n\"1\": b\n" = .ok ⟨"1: a\n\"1\": b\n",.object [("1",.string "b")]⟩ := by
  have digit : Decimal.digits 1 = ['1'] := by
    rw [Decimal.digits]
    rfl
  have text : Decimal.signedText 1 = "1" := by
    rw [Decimal.signedText,Decimal.signedDigits,if_neg (by decide)]
    exact congrArg String.ofList digit
  have merged : twoKeys.toJson = .ok (.object [("1",.string "b")]) := by
    change (toMembers (Json.insert (Decimal.signedText 1) (.string "a") [])
      [(.string "1",.string "b")]).map Json.object = _
    rw [text]
    rfl
  refine ⟨merged,?_,Document.read_of_root (by decide +kernel)⟩
  rintro ⟨ms,same,name,j,others,rfl,_,_,name',j',others',rfl,_⟩
  cases same

end ApiReview.Yaml.Value
