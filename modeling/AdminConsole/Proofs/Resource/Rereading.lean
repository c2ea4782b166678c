/-
# `Proofs.Resource.Rereading` — what the service says survives being written and read

One lemma for each record, all of the same course: the record has been built from
members, each of its fields is read again from where it is written, and the members
without a field come back as they were.
-/
import AdminConsole.Proofs.Json.Record
import AdminConsole.Resource.Listing
import AdminConsole.Resource.Schema

namespace AdminConsole

open Json Entries

/-- The members that a row is written with for its fields. -/
def Item.named (item : Item) : List (String × Json) :=
  [("id", Json.int item.id)]
    ++ Json.optional "name" (item.name.map .string)
    ++ Json.optional "type" (item.type.map .string)
    ++ Json.optional "summary_fields" (item.summary.map Summary.toJson)

variable {t : Json → Json} (ht : IsLayout t)
include ht

theorem decodeString_empty : decodeString (t (.string "")) = .ok "" := by
  rw [ht.string]
  rfl

theorem decodeBool_false : decodeBool (t (.bool false)) = .ok false := by
  rw [ht.bool]
  rfl

theorem Me.restores : Restores t Me.decode Me.toJson := by
  intro v me hv h
  obtain ⟨ms, hms, h⟩ := ht.built hv h
  obtain ⟨id, hid, h⟩ := bind_eq_ok.mp h
  obtain ⟨username, husername, h⟩ := bind_eq_ok.mp h
  obtain ⟨isSuperuser, hsuperuser, h⟩ := bind_eq_ok.mp h
  obtain ⟨isSystemAuditor, hauditor, h⟩ := bind_eq_ok.mp h
  cases h
  have hdistinct : Distinct [("id", Json.int id), ("username", .string username),
      ("is_superuser", .bool isSuperuser), ("is_system_auditor", .bool isSystemAuditor)] := by
    simp [Distinct]
  obtain ⟨es, hes, hdes, hget⟩ := ht.object hdistinct
  have hid := restores_int64.required hms hid (hget "id")
  have husername := restores_string.defaulted hms (decodeString_empty ht)
    husername (hget "username")
  have hsuperuser := restores_bool.defaulted hms (decodeBool_false ht)
    hsuperuser (hget "is_superuser")
  have hauditor := restores_bool.defaulted hms (decodeBool_false ht)
    hauditor (hget "is_system_auditor")
  rw [Me.toJson, hes]
  refine decodeRecord_ok hdes ?_ ?_
  · exact fits_cons (fits_of_required hid) <| fits_cons (fits_of_defaulted husername) <|
      fits_cons (fits_of_defaulted hsuperuser) <| fits_cons (fits_of_defaulted hauditor) fits_nil
  · exact bind_eq_ok.mpr ⟨id, hid, bind_eq_ok.mpr ⟨username, husername,
      bind_eq_ok.mpr ⟨isSuperuser, hsuperuser, bind_eq_ok.mpr ⟨isSystemAuditor, hauditor, rfl⟩⟩⟩⟩

theorem Association.restores : Restores t Association.decode Association.toJson := by
  intro v association hv h
  obtain ⟨ms, hms, h⟩ := ht.built hv h
  obtain ⟨id, hid, h⟩ := bind_eq_ok.mp h
  obtain ⟨disassociate, hdis, h⟩ := bind_eq_ok.mp h
  cases h
  have hdistinct : Distinct ([("id", Json.int id)]
      ++ if disassociate then [("disassociate", .bool true)] else []) := by
    cases disassociate <;> simp [Distinct]
  obtain ⟨es, hes, hdes, hget⟩ := ht.object hdistinct
  have hfound : get? "id" es = some (t (Json.int id)) := hget "id"
  have hid := restores_int64.required hms hid hfound
  -- the flag is written only if it is set, and is not set where it is missing
  have hdis : (Members.mk es .missingField).defaulted "disassociate" decodeBool false
      = .ok disassociate := by
    cases disassociate with
    | false =>
        have hnone : get? "disassociate" es = none := hget "disassociate"
        simp only [Members.defaulted, hnone]
    | true =>
        exact restores_bool.defaulted hms (decodeBool_false ht) hdis (hget "disassociate")
  rw [Association.toJson, hes]
  refine decodeRecord_ok hdes ?_ ?_
  · exact fits_cons (fits_of_required hid) <| fits_cons (fits_of_defaulted hdis) fits_nil
  · exact bind_eq_ok.mpr ⟨id, hid, bind_eq_ok.mpr ⟨disassociate, hdis, rfl⟩⟩

theorem ServerConfig.restores : Restores t ServerConfig.decode ServerConfig.toJson := by
  intro v config hv h
  obtain ⟨ms, rfl, hbuild⟩ := of_decodeObject h
  have hms := ht.members hv
  obtain ⟨version, hversion, hbuild⟩ := bind_eq_ok.mp hbuild
  cases hbuild
  have hnamed : ([("version", Json.string version)].map Prod.fst).Sublist
      (ServerConfig.fields.map Field.name) := List.Sublist.refl _
  obtain ⟨es, hes, hdes, hget, hrest⟩ := ht.fields_and_rest hms hnamed (by decide)
  have hversion := restores_string.defaulted hms (decodeString_empty ht) hversion
    (hget "version" (by decide))
  rw [ServerConfig.toJson]
  refine (congrArg ServerConfig.decode hes).trans (decodeObject_ok hdes ?_ ?_)
  · exact fits_cons (fits_of_defaulted hversion) fits_nil
  · exact bind_eq_ok.mpr ⟨version, hversion, by rw [hrest]; rfl⟩

theorem Capabilities.restores : Restores t Capabilities.decode Capabilities.toJson := by
  intro v capabilities hv h
  obtain ⟨ms, hms, h⟩ := ht.built hv h
  obtain ⟨edit, hedit, h⟩ := bind_eq_ok.mp h
  obtain ⟨delete, hdelete, h⟩ := bind_eq_ok.mp h
  obtain ⟨copy, hcopy, h⟩ := bind_eq_ok.mp h
  cases h
  have hdistinct : Distinct [("edit", .bool edit), ("delete", .bool delete),
      ("copy", Json.bool copy)] := by
    simp [Distinct]
  obtain ⟨es, hes, hdes, hget⟩ := ht.object hdistinct
  have hedit := restores_bool.defaulted hms (decodeBool_false ht) hedit (hget "edit")
  have hdelete := restores_bool.defaulted hms (decodeBool_false ht) hdelete (hget "delete")
  have hcopy := restores_bool.defaulted hms (decodeBool_false ht) hcopy (hget "copy")
  rw [Capabilities.toJson, hes]
  refine decodeRecord_ok hdes ?_ ?_
  · exact fits_cons (fits_of_defaulted hedit) <| fits_cons (fits_of_defaulted hdelete) <|
      fits_cons (fits_of_defaulted hcopy) fits_nil
  · exact bind_eq_ok.mpr ⟨edit, hedit, bind_eq_ok.mpr ⟨delete, hdelete,
      bind_eq_ok.mpr ⟨copy, hcopy, rfl⟩⟩⟩

theorem Summary.restores : Restores t Summary.decode Summary.toJson := by
  intro v summary hv h
  obtain ⟨ms, rfl, hbuild⟩ := of_decodeObject h
  have hms := ht.members hv
  obtain ⟨capabilities, hcapabilities, hbuild⟩ := bind_eq_ok.mp hbuild
  cases hbuild
  have hnamed : ((Json.optional "user_capabilities"
      (capabilities.map Capabilities.toJson)).map Prod.fst).Sublist
      (Summary.fields.map Field.name) := optional_sublist _ _
  obtain ⟨es, hes, hdes, hget, hrest⟩ := ht.fields_and_rest hms hnamed (by decide)
  have hfound : get? "user_capabilities" es = (capabilities.map Capabilities.toJson).map t := by
    rw [hget _ (by decide), get?_optional, if_pos rfl]
  have hcapabilities := (Capabilities.restores ht).optional hms nofun hcapabilities hfound
  rw [Summary.toJson, hes]
  refine decodeObject_ok hdes ?_ ?_
  · exact fits_cons (fits_of_defaulted hcapabilities) fits_nil
  · exact bind_eq_ok.mpr ⟨capabilities, hcapabilities, by rw [hrest]; rfl⟩

omit ht in
theorem Item.named_sublist (item : Item) :
    (item.named.map Prod.fst).Sublist (Item.fields.map Field.name) := by
  simp only [Item.named, List.map_append]
  exact (((List.Sublist.refl ["id"]).append (optional_sublist "name" _)).append
    (optional_sublist "type" _)).append (optional_sublist "summary_fields" _)

omit ht in
theorem Item.get?_named (item : Item) :
    get? "id" item.named = some (Json.int item.id) ∧
      get? "name" item.named = item.name.map Json.string ∧
      get? "type" item.named = item.type.map Json.string ∧
      get? "summary_fields" item.named = item.summary.map Summary.toJson := by
  simp [Item.named, get?_append, get?_cons, get?_optional]

theorem Item.restores : Restores t Item.decode Item.toJson := by
  intro v item hv h
  obtain ⟨ms, rfl, hbuild⟩ := of_decodeObject h
  have hms := ht.members hv
  obtain ⟨id, hid, hbuild⟩ := bind_eq_ok.mp hbuild
  obtain ⟨name, hname, hbuild⟩ := bind_eq_ok.mp hbuild
  obtain ⟨type, htype, hbuild⟩ := bind_eq_ok.mp hbuild
  obtain ⟨summary, hsummary, hbuild⟩ := bind_eq_ok.mp hbuild
  have hitem : item = ⟨id, name, type, summary, ms.rest Item.fields⟩ :=
    (Except.ok.inj hbuild).symm
  obtain ⟨es, hes, hdes, hget, hrest⟩ :=
    ht.fields_and_rest hms (Item.named_sublist item) (by decide)
  obtain ⟨hid', hname', htype', hsummary'⟩ := Item.get?_named item
  have hid := restores_int64.required hms hid
    (by rw [hget "id" (by decide), hid', hitem]; rfl)
  have hname := restores_string.optional hms nofun hname
    (by rw [hget "name" (by decide), hname', hitem])
  have htype := restores_string.optional hms nofun htype
    (by rw [hget "type" (by decide), htype', hitem])
  have hsummary := (Summary.restores ht).optional hms nofun hsummary
    (by rw [hget "summary_fields" (by decide), hsummary', hitem])
  have hwritten : t item.toJson = .object es := by
    rw [← hes, hitem]
    rfl
  rw [hwritten]
  refine decodeObject_ok hdes ?_ ?_
  · exact fits_cons (fits_of_required hid) <| fits_cons (fits_of_defaulted hname) <|
      fits_cons (fits_of_defaulted htype) <| fits_cons (fits_of_defaulted hsummary) fits_nil
  · exact bind_eq_ok.mpr ⟨id, hid, bind_eq_ok.mpr ⟨name, hname, bind_eq_ok.mpr ⟨type, htype,
      bind_eq_ok.mpr ⟨summary, hsummary, by rw [hrest, hitem]; rfl⟩⟩⟩⟩

theorem Listing.restores {α : Type} {read : Json → Decoded α} {write : α → Json}
    (hr : Restores t read write) : Restores t (Listing.decode read) (Listing.toJson write) := by
  intro v listing hv h
  obtain ⟨ms, hms, h⟩ := ht.built hv h
  obtain ⟨count, hcount, h⟩ := bind_eq_ok.mp h
  obtain ⟨next, hnext, h⟩ := bind_eq_ok.mp h
  obtain ⟨previous, hprevious, h⟩ := bind_eq_ok.mp h
  obtain ⟨results, hresults, h⟩ := bind_eq_ok.mp h
  cases h
  have hdistinct : Distinct ([("count", Json.int count)]
      ++ Json.optional "next" (next.map .string)
      ++ Json.optional "previous" (previous.map .string)
      ++ [("results", .array (results.map write))]) := by
    cases next <;> cases previous <;> simp [Distinct, Json.optional]
  obtain ⟨es, hes, hdes, hget⟩ := ht.object hdistinct
  have hfound : get? "count" es = some (t (Json.int count)) ∧
      get? "next" es = (next.map Json.string).map t ∧
      get? "previous" es = (previous.map Json.string).map t ∧
      get? "results" es = some (t (.array (results.map write))) := by
    refine ⟨?_, ?_, ?_, ?_⟩ <;> rw [hget] <;> simp [get?_append, get?_cons, get?_optional]
  obtain ⟨hcount', hnext', hprevious', hresults'⟩ := hfound
  have hcount := restores_nat64.required hms hcount hcount'
  have hnext := restores_string.optional hms nofun hnext hnext'
  have hprevious := restores_string.optional hms nofun hprevious hprevious'
  have hresults := (restores_list ht hr).required hms hresults hresults'
  rw [Listing.toJson, hes]
  refine decodeRecord_ok hdes ?_ ?_
  · exact fits_cons (fits_of_required hcount) <| fits_cons (fits_of_defaulted hnext) <|
      fits_cons (fits_of_defaulted hprevious) <| fits_cons (fits_of_required hresults) fits_nil
  · exact bind_eq_ok.mpr ⟨count, hcount, bind_eq_ok.mpr ⟨next, hnext,
      bind_eq_ok.mpr ⟨previous, hprevious, bind_eq_ok.mpr ⟨results, hresults, rfl⟩⟩⟩⟩

theorem FieldSchema.restores : Restores t FieldSchema.decode FieldSchema.toJson := by
  intro v schema hv h
  obtain ⟨ms, rfl, hbuild⟩ := of_decodeObject h
  have hms := ht.members hv
  obtain ⟨type, htype, hbuild⟩ := bind_eq_ok.mp hbuild
  obtain ⟨label, hlabel, hbuild⟩ := bind_eq_ok.mp hbuild
  obtain ⟨filterable, hfilterable, hbuild⟩ := bind_eq_ok.mp hbuild
  cases hbuild
  have hnamed : ((Json.optional "type" (type.map .string)
      ++ Json.optional "label" (label.map .string)
      ++ [("filterable", Json.bool filterable)]).map Prod.fst).Sublist
      (FieldSchema.fields.map Field.name) := by
    simp only [List.map_append]
    exact ((optional_sublist "type" _).append (optional_sublist "label" _)).append
      (List.Sublist.refl ["filterable"])
  obtain ⟨es, hes, hdes, hget, hrest⟩ := ht.fields_and_rest hms hnamed (by decide)
  have hfound : get? "type" es = (type.map Json.string).map t ∧
      get? "label" es = (label.map Json.string).map t ∧
      get? "filterable" es = some (t (.bool filterable)) := by
    refine ⟨?_, ?_, ?_⟩ <;> rw [hget _ (by decide)] <;>
      simp [get?_append, get?_cons, get?_optional]
  obtain ⟨htype', hlabel', hfilterable'⟩ := hfound
  have htype := restores_string.optional hms nofun htype htype'
  have hlabel := restores_string.optional hms nofun hlabel hlabel'
  have hfilterable := restores_bool.defaulted hms (decodeBool_false ht) hfilterable hfilterable'
  have hwritten : FieldSchema.toJson ⟨type, label, filterable, ms.rest FieldSchema.fields⟩ =
      .object (Json.optional "type" (type.map .string)
        ++ Json.optional "label" (label.map .string)
        ++ [("filterable", .bool filterable)] ++ (ms.rest FieldSchema.fields).entries) := by
    simp [FieldSchema.toJson]
  rw [hwritten, hes]
  refine decodeObject_ok hdes ?_ ?_
  · exact fits_cons (fits_of_defaulted htype) <| fits_cons (fits_of_defaulted hlabel) <|
      fits_cons (fits_of_defaulted hfilterable) fits_nil
  · exact bind_eq_ok.mpr ⟨type, htype, bind_eq_ok.mpr ⟨label, hlabel,
      bind_eq_ok.mpr ⟨filterable, hfilterable, by rw [hrest]; rfl⟩⟩⟩

theorem Actions.restores : Restores t Actions.decode Actions.toJson := by
  intro v actions hv h
  obtain ⟨ms, hms, h⟩ := ht.built hv h
  obtain ⟨get, hgetting, h⟩ := bind_eq_ok.mp h
  obtain ⟨post, hposting, h⟩ := bind_eq_ok.mp h
  cases h
  have hdistinct : Distinct (Json.optional "GET" (get.map Actions.tableJson)
      ++ Json.optional "POST" (post.map Actions.tableJson)) := by
    cases get <;> cases post <;> simp [Distinct, Json.optional]
  obtain ⟨es, hes, hdes, hget⟩ := ht.object hdistinct
  have hfound : get? "GET" es = (get.map Actions.tableJson).map t ∧
      get? "POST" es = (post.map Actions.tableJson).map t := by
    refine ⟨?_, ?_⟩ <;> rw [hget] <;> simp [get?_append, get?_optional]
  have htable : Restores t (decodeDict FieldSchema.decode) Actions.tableJson :=
    restores_dict ht (FieldSchema.restores ht)
  have hgetting := htable.optional hms nofun hgetting hfound.1
  have hposting := htable.optional hms nofun hposting hfound.2
  rw [Actions.toJson, hes]
  refine decodeRecord_ok hdes ?_ ?_
  · exact fits_cons (fits_of_defaulted hgetting) <|
      fits_cons (fits_of_defaulted hposting) fits_nil
  · exact bind_eq_ok.mpr ⟨get, hgetting, bind_eq_ok.mpr ⟨post, hposting, rfl⟩⟩

theorem Actions.decode_empty : Actions.decode (t Actions.empty.toJson) = .ok Actions.empty := by
  have hdistinct : Distinct ([] : List (String × Json)) := List.Pairwise.nil
  obtain ⟨es, hes, hdes, hget⟩ := ht.object hdistinct
  have hnone : es = [] := by
    rw [List.eq_nil_iff_forall_not_mem]
    intro e he
    have hfound := hdes.get?_eq_some_iff.mpr he
    rw [hget] at hfound
    cases hfound
  have hempty : t Actions.empty.toJson = .object [] := hnone ▸ hes
  rw [hempty]
  rfl

theorem Schema.restores : Restores t Schema.decode Schema.toJson := by
  intro v schema hv h
  obtain ⟨ms, hms, h⟩ := ht.built hv h
  obtain ⟨actions, hactions, h⟩ := bind_eq_ok.mp h
  obtain ⟨related, hrelated, h⟩ := bind_eq_ok.mp h
  cases h
  have hdistinct : Distinct [("actions", actions.toJson),
      ("related_search_fields", Json.strings related)] := by
    simp [Distinct]
  obtain ⟨es, hes, hdes, hget⟩ := ht.object hdistinct
  have hactions := (Actions.restores ht).defaulted hms (Actions.decode_empty ht) hactions
    (hget "actions")
  have hnothing : decodeList decodeString (t (Json.strings [])) = .ok [] := by
    rw [Json.strings, ht.array]
    rfl
  have hrelated := (restores_list ht restores_string).defaulted hms hnothing hrelated
    (hget "related_search_fields")
  rw [Schema.toJson, hes]
  refine decodeRecord_ok hdes ?_ ?_
  · exact fits_cons (fits_of_defaulted hactions) <| fits_cons (fits_of_defaulted hrelated) fits_nil
  · exact bind_eq_ok.mpr ⟨actions, hactions, bind_eq_ok.mpr ⟨related, hrelated, rfl⟩⟩

end AdminConsole
