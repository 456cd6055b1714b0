import ApiReview.Proofs.Conformance
import ApiReview.Proofs.Lockstep
import ApiReview.Proofs.Tolerance

/-! Formats, and members that the draft does not know. A schema that loses some of them can still be
used, and nothing that it says of documents changes. -/
namespace ApiReview.Schema

/-! Tables that are alike. -/

namespace Table

section
variable {t t' : Table}

theorem Alike.open (alike : t.Alike t') (uri : Uri) : (t.open uri).Alike (t'.open uri) where
  keys := congrArg (·.push uri) alike.keys
  schemas := by
    simp only [Table.open,Array.toList_push]
    exact List.rel_append alike.schemas (.cons .everything .nil)

theorem forall₂_set {α β : Type} {R : α → β → Prop} {as : List α} {bs : List β}
    (each : List.Forall₂ R as bs) {a : α} {b : β} (here : R a b) (i : Nat) :
    List.Forall₂ R (as.set i a) (bs.set i b) := by
  induction each generalizing i with
  | nil => exact .nil
  | cons one rest ih =>
    cases i with
    | zero => exact .cons here rest
    | succ i => exact .cons one (ih i)

theorem Alike.fill (alike : t.Alike t') (i : Nat) {s s' : Schema} (here : Schema.Alike s s') :
    (t.fill i s).Alike (t'.fill i s') where
  keys := alike.keys
  schemas := by
    simp only [Table.fill,Array.toList_setIfInBounds]
    exact forall₂_set alike.schemas here i

end

end Table

/-! References, which lead to schemas that are alike. -/

section
variable {r r' : Resources} {known : Uri → Prop}
  (leads : ∀ uri, known uri → Carries Target.Alike (r.target uri) (r'.target uri))
include leads

omit leads in
theorem ofJson_array {S : Setting} {base : Uri} {v : Json} {t : Table} {p : Schema × Table}
    (array : v.items?.isSome = true) : ¬ ofJson S base v t = .ok p := by
  cases v with
  | array vs => exact nofun
  | _ => cases array

theorem followWithin_keepsUp (n : Nat) (base : Uri) (text : String) :
    KeepsUp known Eq (followWithin r false n base text) (followWithin r' false n base text) := by
  induction n generalizing base text with
  | zero => exact .refuse _ _
  | succ n ih =>
    intro t i u done
    obtain ⟨uri,resolved,⟨found,rfl⟩ | ⟨new,target,s,v,led,inside,rfl,rfl⟩⟩ :=
      followWithin_cases done
    · refine ⟨fun _ old => old,fun _ t' alike => ⟨i,t',?_,rfl,alike⟩⟩
      exact followWithin_known n resolved (alike.keys ▸ found)
    · have reads : Inner known ⟨followWithin r false n,false⟩ ⟨followWithin r' false n,false⟩
          (target.schema.depth + 1) := ofJson_keepsUp ⟨rfl,rfl⟩ ih _
      -- That no identifier is lost does not depend on the second reading.
      have stay := (reads target.schema target.schema (Nat.lt_succ_self _)
        (Pruned.refl DataAlike.refl _) target.base _ s v inside).1
      refine ⟨fun key old => stay key (by simp [Table.open,old]),fun fine t' alike => ?_⟩
      obtain ⟨target',led',same⟩ := leads uri (fine uri (stay uri (by simp [Table.open]))) target led
      have pruned : Pruned DataAlike target.schema target'.schema :=
        same.schema.resolve_right fun arrays => ofJson_array arrays.1 inside
      obtain ⟨s',v',inside',one,beside⟩ := (reads target.schema target'.schema (Nat.lt_succ_self _)
        pruned target.base _ s v inside).2 fine (t'.open uri) (alike.open uri)
      refine ⟨_,_,?_,rfl,beside.fill t.keys.size one⟩
      rw [followWithin_new n resolved (alike.keys ▸ new) led',same.base,inside',alike.keys]
      rfl

end

/-- The identifiers that are met when a schema is read. -/
def Resources.met (r : Resources) (schema : Json) : List Uri :=
  match ofJson ⟨followWithin r false memoryLimit,false⟩ defaultBase schema {} with
  | .ok (_,t) => t.keys.toList
  | .error _ => []

theorem read_alike {r r' : Resources} {schema schema' : Json}
    (pruned : Pruned DataAlike schema schema')
    (leads : ∀ uri ∈ r.met schema, Carries Target.Alike (r.target uri) (r'.target uri)) :
    Carries Validator.Alike (read false r schema) (read false r' schema') := by
  intro w done
  obtain ⟨⟨root,t⟩,inside,same⟩ := Success.bind_iff.mp done
  cases same
  have met (uri : Uri) (key : uri ∈ t.keys) : uri ∈ r.met schema := by
    have inside' : ofJson ⟨followWithin r false memoryLimit,false⟩ defaultBase schema {} =
      .ok (root,t) := inside
    rw [Resources.met,inside']
    exact Array.mem_toList_iff.mpr key
  have reads : Inner (· ∈ r.met schema) ⟨followWithin r false memoryLimit,false⟩
      ⟨followWithin r' false memoryLimit,false⟩ (schema.depth + 1) :=
    ofJson_keepsUp ⟨rfl,rfl⟩ (followWithin_keepsUp leads memoryLimit) _
  obtain ⟨root',t',inside',one,alike⟩ := (reads schema schema' (Nat.lt_succ_self _) pruned
    defaultBase {} root t inside).2 met {} ⟨rfl,.nil⟩
  exact ⟨⟨root',t'.schemas⟩,Success.bind_iff.mpr ⟨(root',t'),inside',rfl⟩,one,alike.schemas⟩

/-- What references lead to is still there: where pointers lead that are followed to gather documents,
and where those lead that are met in reading. What references lead to is a schema too, so it may
have lost idle members, but none that is no member of it as a schema. -/
structure Intact (retrieve : String → Except String Json) (schema schema' : Json) : Prop where
  sought : ∀ p, Sought defaultBase schema p →
    LeadAlike (follow p defaultBase schema) (follow p defaultBase schema')
  met : ∀ r r', gatherFor retrieve schema = .ok r → gatherFor retrieve schema' = .ok r' →
    ∀ uri ∈ r.met schema, ∀ p, uri.fragment = some p → p.startsWith "/" = true →
      ∀ document document', r.document uri.withoutFragment = .ok document →
        r'.document uri.withoutFragment = .ok document' →
        LeadAlike (follow p uri.withoutFragment document) (follow p uri.withoutFragment document')

/-! Most references go through keywords, from schema to schema. What they lead to stays. -/

/-- Tokens that go through the keywords of a schema to a schema inside it. -/
inductive Along : List String → Json → Prop where
  | here {v : Json} : Along [] v
  | one {name : String} {rest : List String} {ms : List (String × Json)} {v : Json} :
    position? name = some .schema ∨ position? name = some .either ∧ v.items? = none →
    Json.lookup name ms = some v → Along rest v → Along (name :: rest) (.object ms)
  | item {name token : String} {rest : List String} {ms : List (String × Json)} {vs : List Json}
    {i : Nat} {v : Json} : position? name = some .schemas ∨ position? name = some .either →
    Json.lookup name ms = some (.array vs) → Segment.position? token = some i → vs[i]? = some v →
    Along rest v → Along (name :: token :: rest) (.object ms)
  | field {name token : String} {rest : List String} {ms fs : List (String × Json)} {v : Json} :
    position? name = some .fields → Json.lookup name ms = some (.object fs) →
    Json.lookup token fs = some v → Along rest v → Along (name :: token :: rest) (.object ms)

/-- A pointer whose tokens go through keywords. -/
def LeadsAlong (pointer : String) (document : Json) : Prop :=
  ∃ text, percentDecode? pointer = some text ∧ Along ((Pointer.tokens? text).getD []) document

theorem LeadAlike.bind {α : Type} {x : Except Error α} {f f' : α → Except Error (Uri × Json)}
    (rest : ∀ a, LeadAlike (f a) (f' a)) : LeadAlike (x >>= f) (x >>= f') := by
  cases x with
  | error e => exact .none
  | ok a => exact rest a

/-- One token further, in objects that declare the same. -/
theorem walk_member {pointer token : String} {rest : List String} {base : Uri}
    {ms ms' : List (String × Json)} {v v' : Json} (found : Json.lookup token ms = some v)
    (found' : Json.lookup token ms' = some v') (declared : baseWithin base ms' = baseWithin base ms)
    (later : ∀ base, LeadAlike (walk pointer rest base v) (walk pointer rest base v')) :
    LeadAlike (walk pointer (token :: rest) base (.object ms))
      (walk pointer (token :: rest) base (.object ms')) := by
  rw [walk,walk,found,found',declared]
  exact .bind later

theorem walk_item {pointer token : String} {rest : List String} {base : Uri} {vs vs' : List Json}
    {i : Nat} {v v' : Json} (index : Segment.position? token = some i) (found : vs[i]? = some v)
    (found' : vs'[i]? = some v')
    (later : LeadAlike (walk pointer rest base v) (walk pointer rest base v')) :
    LeadAlike (walk pointer (token :: rest) base (.array vs))
      (walk pointer (token :: rest) base (.array vs')) := by
  rw [walk,walk,index]
  dsimp only
  rw [found,found']
  exact later

theorem walk_along {tokens : List String} {v : Json} (along : Along tokens v) (pointer : String)
    (base : Uri) {v' : Json} (pruned : Pruned DataAlike v v') :
    LeadAlike (walk pointer tokens base v) (walk pointer tokens base v') := by
  induction along generalizing base v' with
  | here => exact .some ⟨rfl,.inl pruned⟩
  | @one name rest ms v place found _ ih =>
    obtain ⟨ms',rfl,members⟩ := pruned_object.mp pruned
    have busy := place.elim isIdle_position (isIdle_position ·.1)
    obtain ⟨v',found',under⟩ := optionRel_some (found ▸ members.lookup busy)
    have inside : Pruned DataAlike v v' := by
      rcases place with schema | ⟨either,plain⟩
      · exact under.schema schema
      · simpa [plain] using under.either either
    exact walk_member found found' (baseWithin_pruned members base) fun inner => ih inner inside
  | @item name token rest ms vs i v place found index here _ ih =>
    obtain ⟨ms',rfl,members⟩ := pruned_object.mp pruned
    have busy := place.elim isIdle_position isIdle_position
    obtain ⟨w',found',under⟩ := optionRel_some (found ▸ members.lookup busy)
    have items : PrunedArray DataAlike (.array vs) w' := by
      rcases place with schemas | either
      · exact under.schemas schemas
      · exact under.either either
    obtain ⟨vs',rfl,each⟩ := prunedArray_array.mp items
    have each := prunedItems_iff.mp each
    obtain ⟨v',here',inside⟩ : ∃ v', vs'[i]? = some v' ∧ Pruned DataAlike v v' := by
      obtain ⟨lt,rfl⟩ := List.getElem?_eq_some_iff.mp here
      have lt' : i < vs'.length := each.length_eq ▸ lt
      exact ⟨vs'[i],List.getElem?_eq_getElem lt',each.get lt lt'⟩
    exact walk_member found found' (baseWithin_pruned members base) fun inner =>
      walk_item index here here' (ih inner inside)
  | @field name token rest ms fs v place found here _ ih =>
    obtain ⟨ms',rfl,members⟩ := pruned_object.mp pruned
    obtain ⟨w',found',under⟩ := optionRel_some (found ▸ members.lookup (isIdle_position place))
    obtain ⟨fs',rfl,values⟩ := prunedFields_object.mp (under.fields place)
    obtain ⟨v',here',inside⟩ := optionRel_some (here ▸ values.lookup token)
    exact walk_member found found' (baseWithin_pruned members base) fun inner =>
      walk_member here here' (baseWithin_values values inner) fun inner => ih inner inside

theorem follow_along {pointer : String} {document document' : Json}
    (along : LeadsAlong pointer document) (pruned : Pruned DataAlike document document') (base : Uri) :
    LeadAlike (follow pointer base document) (follow pointer base document') := by
  obtain ⟨text,decoded,along⟩ := along
  unfold follow
  rw [decoded]
  exact walk_along along pointer base pruned

/-- Where all references that are followed go through keywords, nothing that is lost is missed. -/
theorem Intact.of_along {retrieve : String → Except String Json} {schema schema' : Json}
    (pruned : Pruned Unchanged schema schema')
    (sought : ∀ p, Sought defaultBase schema p → LeadsAlong p schema)
    (met : ∀ r, gatherFor retrieve schema = .ok r → ∀ uri ∈ r.met schema, ∀ p,
      uri.fragment = some p → p.startsWith "/" = true → ∀ document,
      r.document uri.withoutFragment = .ok document → LeadsAlong p document) :
    Intact retrieve schema schema' := by
  have alike : Pruned DataAlike schema schema' := pruned.mono (fun _ _ same => .inl same) _ _
  have kept (p : String) (due : Sought defaultBase schema p) :=
    follow_along (sought p due) alike defaultBase
  refine ⟨kept,fun r r' gathered gathered' uri listed p fragment pointer v v' held held' => ?_⟩
  obtain ⟨_,gathered'',twin⟩ := gatherFor_twin retrieve alike kept r gathered
  obtain rfl := Except.ok.inj (gathered'.symm.trans gathered'')
  obtain ⟨_,held'',same⟩ := document_twin twin _ v held
  obtain rfl := Except.ok.inj (held'.symm.trans held'')
  exact follow_along (met r gathered uri listed p fragment pointer v held) same _

/-- A validator is built from a schema that has lost idle members, and it decides like the one of the
schema that has them: it accepts the same documents, and finds faults at the same places in the
same order. -/
theorem Validator.build_pruned {retrieve : String → Except String Json} {schema schema' : Json}
    {w : Validator} (built : Validator.build retrieve schema = .ok w) (distinct : schema.Distinct)
    (pruned : Pruned Unchanged schema schema') (intact : Intact retrieve schema schema') :
    ∃ w', Validator.build retrieve schema' = .ok w' ∧ ∀ document,
      w'.accepts document = w.accepts document ∧
      (w'.findings document).map (·.pointer) = (w.findings document).map (·.pointer) := by
  have alike : Pruned DataAlike schema schema' := pruned.mono (fun _ _ same => .inl same) _ _
  obtain ⟨r,gathered,later⟩ := Success.bind_iff.mp built
  obtain ⟨_,fine,done⟩ := Success.bind_iff.mp later
  obtain ⟨r',gathered',twin⟩ := gatherFor_twin retrieve alike intact.sought r gathered
  obtain ⟨w',done',same⟩ := read_alike alike (fun uri met => target_twin twin
    (intact.met r r' gathered gathered' uri met)) w done
  refine ⟨w',?_,fun document => ⟨same.accepts document,same.pointers document⟩⟩
  exact Success.bind_iff.mpr ⟨r',gathered',Success.bind_iff.mpr
    ⟨(),check_pruned pruned distinct fine,done'⟩⟩

/-! Pointers that are followed are found by going on from those that stand in the schema. -/

/-- Whether what stands in a document, and in what the pointers lead to, are these pointers alone. -/
def closes (base : Uri) (document : Json) (ps : List String) : Bool :=
  let finds (found : Except Error Survey) : Bool := found.toOption.all (·.pointers.all ps.contains)
  finds (survey base document) && ps.all fun p =>
    (follow p base document).toOption.all fun (inner,v) => finds (survey inner v)

theorem Sought.mem {base : Uri} {document : Json} {ps : List String}
    (check : closes base document ps = true) {p : String} (sought : Sought base document p) :
    p ∈ ps := by
  obtain ⟨first,others⟩ := Bool.and_eq_true_iff.mp check
  induction sought with
  | here surveyed member =>
    rw [surveyed] at first
    exact List.contains_iff_mem.mp (List.all_eq_true.mp first _ member)
  | there _ led surveyed member ih =>
    have later := List.all_eq_true.mp others _ ih
    rw [led] at later
    simp only [Except.toOption,Option.all_some,surveyed] at later
    exact List.contains_iff_mem.mp (List.all_eq_true.mp later _ member)

/-- A schema that stands by itself, with the draft. -/
def alone (schema : Json) : Resources := { draftResources with
  documents := (defaultBase.text,schema) :: draftResources.documents }

theorem alone_document (schema : Json) {uri : Uri} (home : uri.text = defaultBase.text)
    {document : Json} (found : (alone schema).document uri = .ok document) : document = schema := by
  have there : (alone schema).documents.lookup defaultBase.text = some schema := by simp [alone]
  rw [Resources.document,home,there] at found
  cases found
  rfl

namespace Loss

def name : Json := .object [("type",.string "string"),("format",.string "email")]

def bareName : Json := .object [("type",.string "string")]

/-- A schema with a format, notes of its own, and a property that is called format. -/
def noted : Json :=
  .object [("definitions",.object [("name",name)]),
    ("properties",.object [
      ("format",.object [("$ref",.string "#/definitions/name"),("x-why",.null)])]),
    ("not",.object [("x-since",.int 2),("required",.array [.string "gone"])]),
    ("x-owner",.string "us")]

def bare : Json :=
  .object [("definitions",.object [("name",bareName)]),
    ("properties",.object [("format",.object [("$ref",.string "#/definitions/name")])]),
    ("not",.object [("required",.array [.string "gone"])])]

theorem noted_computed : (Validator.build Bundled.retrieve noted).toOption.isSome = true ∧
    noted.isPlain = true ∧ stands noted = true ∧
    closes defaultBase noted ["/definitions/name"] = true ∧
    (alone noted).met noted = [{ defaultBase with fragment := some "/definitions/name" }] ∧
    percentDecode? "/definitions/name" = some "/definitions/name" := by
  decide +kernel

theorem idle : ∀ k ∈ ["format","x-why","x-since","x-owner","x-kind"], isIdle k = true := by
  decide +kernel

theorem name_pruned : Pruned Unchanged name bareName :=
  pruned_object.mpr ⟨_,rfl,.keep (.inr rfl) (.drop (idle _ (by simp)) (.refl Unchanged.refl []))⟩

theorem noted_pruned : Pruned Unchanged noted bare := by
  have definitions : PrunedFields Unchanged (.object [("name",name)]) (.object [("name",bareName)]) :=
    prunedFields_object.mpr ⟨_,rfl,prunedValues_iff.mpr (.cons ⟨rfl,name_pruned⟩ .nil)⟩
  have property : Pruned Unchanged
      (.object [("$ref",.string "#/definitions/name"),("x-why",.null)])
      (.object [("$ref",.string "#/definitions/name")]) :=
    pruned_object.mpr ⟨_,rfl,.keep (.inr rfl) (.drop (idle _ (by simp)) (.refl Unchanged.refl []))⟩
  have properties : PrunedFields Unchanged
      (.object [("format",.object [("$ref",.string "#/definitions/name"),("x-why",.null)])])
      (.object [("format",.object [("$ref",.string "#/definitions/name")])]) :=
    prunedFields_object.mpr ⟨_,rfl,prunedValues_iff.mpr (.cons ⟨rfl,property⟩ .nil)⟩
  have refused : Pruned Unchanged
      (.object [("x-since",.int 2),("required",.array [.string "gone"])])
      (.object [("required",.array [.string "gone"])]) :=
    pruned_object.mpr ⟨_,rfl,.drop (idle _ (by simp)) (.refl Unchanged.refl _)⟩
  exact pruned_object.mpr ⟨_,rfl,.keep definitions (.keep properties (.keep refused
    (.drop (idle _ (by simp)) (.refl Unchanged.refl []))))⟩

theorem noted_intact : Intact Bundled.retrieve noted bare := by
  obtain ⟨_,_,stand,closed,met,decoded⟩ := noted_computed
  have along : LeadsAlong "/definitions/name" noted := ⟨_,decoded,.field rfl rfl rfl .here⟩
  refine .of_along noted_pruned (fun p sought => ?_)
    fun r gathered uri listed p fragment _ v held => ?_
  · obtain rfl := List.mem_singleton.mp (sought.mem closed)
    exact along
  · cases (gatherFor_stands Bundled.retrieve stand).symm.trans gathered
    obtain rfl := List.mem_singleton.mp (met ▸ listed)
    cases fragment
    rw [alone_document noted rfl held]
    exact along

/-- A schema whose properties are read as a schema once more. One of them is called properties, so
what is unknown in its schema is the name of a property then. -/
def reread : Json :=
  .object [("properties",.object [("properties",.object [("x-kind",bareName)])]),
    ("allOf",.array [.object [("$ref",.string "#/properties")]])]

def emptied : Json :=
  .object [("properties",.object [("properties",.object [])]),
    ("allOf",.array [.object [("$ref",.string "#/properties")]])]

def kinded : Json := .object [("x-kind",.int 1)]

theorem reread_pruned : Pruned Unchanged reread emptied := by
  have property : Pruned Unchanged (.object [("x-kind",bareName)]) (.object []) :=
    pruned_object.mpr ⟨_,rfl,.drop (idle _ (by simp)) (.refl Unchanged.refl [])⟩
  have properties : PrunedFields Unchanged (.object [("properties",.object [("x-kind",bareName)])])
      (.object [("properties",.object [])]) :=
    prunedFields_object.mpr ⟨_,rfl,prunedValues_iff.mpr (.cons ⟨rfl,property⟩ .nil)⟩
  exact pruned_object.mpr ⟨_,rfl,.keep properties (.refl Unchanged.refl _)⟩

/-- The one reference leads to the properties before and after, but not to the same verdict. -/
theorem reread_computed : reread.isPlain = true ∧ closes defaultBase reread ["/properties"] = true ∧
    (follow "/properties" defaultBase reread).toOption.isSome = true ∧
    (follow "/properties" defaultBase emptied).toOption.isSome = true ∧
    (Validator.build Bundled.retrieve reread).toOption.any (fun w =>
      !w.accepts kinded && (w.findings kinded).map (·.pointer) == [Pointer.root.key "x-kind"]) = true ∧
    (Validator.build Bundled.retrieve emptied).toOption.any (fun w =>
      w.accepts kinded && (w.findings kinded).map (·.pointer) == []) = true := by
  decide +kernel

end Loss

/-- The schema without its notes and its format decides like the one with them. -/
theorem Validator.build_pruned_noted : ∃ w w',
    Validator.build Bundled.retrieve Loss.noted = .ok w ∧ Loss.noted.Distinct ∧
    Pruned Unchanged Loss.noted Loss.bare ∧ Intact Bundled.retrieve Loss.noted Loss.bare ∧
    Validator.build Bundled.retrieve Loss.bare = .ok w' ∧ ∀ document,
      w'.accepts document = w.accepts document ∧
      (w'.findings document).map (·.pointer) = (w.findings document).map (·.pointer) := by
  obtain ⟨used,plain,_⟩ := Loss.noted_computed
  obtain ⟨w,found⟩ := Option.isSome_iff_exists.mp used
  have built := Success.toOption_iff.mp found
  have distinct := (Json.plain_of_isPlain plain).distinct
  obtain ⟨w',built',same⟩ :=
    Validator.build_pruned built distinct Loss.noted_pruned Loss.noted_intact
  exact ⟨w,w',built,distinct,Loss.noted_pruned,Loss.noted_intact,built',same⟩

/-- No reference points into what is lost, yet a document that was refused is accepted: the reference
leads to a place where what is lost was the name of a property. -/
theorem Validator.build_pruned_reread : ∃ w w',
    Validator.build Bundled.retrieve Loss.reread = .ok w ∧ Loss.reread.Distinct ∧
    Pruned Unchanged Loss.reread Loss.emptied ∧
    (∀ p, Sought defaultBase Loss.reread p →
      (follow p defaultBase Loss.reread).toOption.isSome = true ∧
      (follow p defaultBase Loss.emptied).toOption.isSome = true) ∧
    Validator.build Bundled.retrieve Loss.emptied = .ok w' ∧
    w.accepts Loss.kinded = false ∧ w'.accepts Loss.kinded = true ∧
    (w.findings Loss.kinded).map (·.pointer) ≠ (w'.findings Loss.kinded).map (·.pointer) := by
  obtain ⟨plain,closed,before,after,one,two⟩ := Loss.reread_computed
  obtain ⟨w,built,refused⟩ := (Option.any_eq_true _ _).mp one
  obtain ⟨w',built',accepted⟩ := (Option.any_eq_true _ _).mp two
  simp only [Bool.and_eq_true,Bool.not_eq_true',beq_iff_eq] at refused accepted
  refine ⟨w,w',Success.toOption_iff.mp built,(Json.plain_of_isPlain plain).distinct,
    Loss.reread_pruned,fun p sought => ?_,Success.toOption_iff.mp built',refused.1,accepted.1,?_⟩
  · obtain rfl := List.mem_singleton.mp (sought.mem closed)
    exact ⟨before,after⟩
  · rw [refused.2,accepted.2]
    exact List.cons_ne_nil _ _

end ApiReview.Schema
