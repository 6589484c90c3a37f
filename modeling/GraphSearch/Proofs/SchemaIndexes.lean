import GraphSearch.Bolt.Schema
import GraphSearch.Proofs.Scanner

/-!
The indexes that a store has after the statements of a schema.

A store creates an index unless one of the same name, or one on the same label and key, is there.
The name of an index keeps only letters and digits of its label, and not their case. Main statement:
of the labels with one prefix the first gets its indexes and the others none, so that all labels have
theirs just if no two of them share a prefix.
-/

namespace GraphSearch

/-- An index of the nodes with a label. -/
structure NodeIndex where
  name : String
  label : String
  key : String
deriving DecidableEq, Repr

namespace NodeIndex

/-! ### Stores -/

/-- What is seen of a token when identifiers are left out. -/
def outline : Token → Char
  | .char c => c
  | .identifier _ => '\x60'

/-- The index that a statement creates. -/
def read? (statement : String) : Option NodeIndex := do
  let tokens ← scan statement.toList
  let rest ← (tokens.map outline).dropPrefix? "CREATE INDEX ".toList
  let name ← rest.dropSuffix? " IF NOT EXISTS FOR (n:\x60) ON (n.\x60)".toList
  match tokens.filterMap Token.identifier? with
  | [label, key] =>
    if !name.isEmpty && name.all Identifier.isPlain then some ⟨String.ofList name, label, key⟩
    else none
  | _ => none

def create (store : List NodeIndex) (ix : NodeIndex) : List NodeIndex :=
  if ∃ held ∈ store, held.name = ix.name ∨ held.label = ix.label ∧ held.key = ix.key then store
  else store ++ [ix]

/-- The indexes after a statement, if it is one that creates an index. -/
def execute? (store : List NodeIndex) (statement : String) : Option (List NodeIndex) :=
  (read? statement).map (create store)

def executeAll? (store : List NodeIndex) (statements : List String) : Option (List NodeIndex) :=
  statements.foldlM execute? store

/-! ### Statements of a schema -/

def indexName (label key : String) : String :=
  indexPrefix label ++ "_" ++ key

/-- The index of a label on a key. -/
def ofLabel (label key : String) : NodeIndex :=
  ⟨indexName label key, label, key⟩

def schemaKeys : List String := [uuidKey, typeKey]

theorem mem_schemaKeys {key : String} : key ∈ schemaKeys ↔ key = uuidKey ∨ key = typeKey :=
  List.mem_pair

theorem uuidKey_mem : uuidKey ∈ schemaKeys :=
  mem_schemaKeys.mpr (.inl rfl)

theorem typeKey_mem : typeKey ∈ schemaKeys :=
  mem_schemaKeys.mpr (.inr rfl)

/-- The indexes that a schema asks for, one after the other. -/
def ofLabels (labels : List String) : List NodeIndex :=
  labels.flatMap fun label => schemaKeys.map (ofLabel label)

theorem isAlphanum_toLower {c : Char} (h : c.isAlphanum = true) : c.toLower.isAlphanum = true := by
  simp only [Char.isAlphanum, Char.isAlpha, Char.isUpper, Char.isLower, Char.isDigit, Char.toLower,
    Bool.or_eq_true, Bool.and_eq_true, decide_eq_true_eq, ge_iff_le, UInt32.le_iff_toNat_le] at *
  split
  · simp only [UInt32.toNat_add] at *
    simp at *
    omega
  · exact h

theorem isPlain_of_mem_indexName {label key : String} (hkey : key ∈ schemaKeys) {c : Char}
    (h : c ∈ (indexName label key).toList) : Identifier.isPlain c = true := by
  have hkeys : ∀ key ∈ schemaKeys, ∀ c ∈ '_' :: key.toList, Identifier.isPlain c = true := by
    simp [schemaKeys, uuidKey, typeKey, Identifier.isPlain]
  rw [indexName, String.toList_append, String.toList_append, indexPrefix, String.toList_ofList,
    List.append_assoc] at h
  rcases List.mem_append.mp h with hstart | hrest
  · obtain ⟨d, -, rfl⟩ := List.mem_map.mp hstart
    split
    · rename_i hd
      rw [Identifier.isPlain, isAlphanum_toLower hd, Bool.true_or]
    · decide
  · exact hkeys key hkey c hrest

/-- The tokens of the statement for the index of a label on a key. -/
def createTokens (label key : String) : List Token :=
  ("CREATE INDEX ".toList ++ (indexName label key).toList ++
      " IF NOT EXISTS FOR (n:".toList).map Token.char ++ Token.identifier label.toList ::
    (") ON (n.".toList.map Token.char ++ [Token.identifier key.toList, Token.char ')'])

theorem scan_createIndex {label key : String} (hkey : key ∈ schemaKeys) :
    scan (createIndex label key).toList = some (createTokens label key) := by
  have hname : '\x60' ∉ "CREATE INDEX ".toList ++ (indexName label key).toList ++
      " IF NOT EXISTS FOR (n:".toList := by
    have hplain : '\x60' ∉ (indexName label key).toList := fun hmem =>
      absurd (isPlain_of_mem_indexName hkey hmem) (by decide)
    simp [hplain]
  have hkeyed : scan ((Identifier.quoted key).toList ++ ")".toList) =
      some [Token.identifier key.toList, Token.char ')'] := by
    rw [scan_quoted_append key (by simp)]
    rfl
  have hon : scan (") ON (n.".toList ++ ((Identifier.quoted key).toList ++ ")".toList)) =
      some (") ON (n.".toList.map Token.char ++ [Token.identifier key.toList, Token.char ')']) := by
    rw [scan_append_of_not_mem (by simp), hkeyed, Option.map_some]
  have hlabelled : (") ON (n.".toList ++ ((Identifier.quoted key).toList ++ ")".toList)).head? ≠
      some '\x60' := by
    simp
  have hstatement : (createIndex label key).toList =
      "CREATE INDEX ".toList ++ (indexName label key).toList ++ " IF NOT EXISTS FOR (n:".toList ++
        ((Identifier.quoted label).toList ++ (") ON (n.".toList ++
          ((Identifier.quoted key).toList ++ ")".toList))) := by
    unfold createIndex indexName
    simp only [String.toList_append, List.append_assoc]
  rw [hstatement, scan_append_of_not_mem hname, scan_quoted_append label hlabelled, hon,
    Option.map_some, Option.map_some]
  rfl

theorem map_outline_char (cs : List Char) : (cs.map Token.char).map outline = cs := by
  rw [List.map_map]
  exact List.map_id cs

theorem read?_createIndex {key : String} (hkey : key ∈ schemaKeys) (label : String) :
    read? (createIndex label key) = some (ofLabel label key) := by
  have houtline : (createTokens label key).map outline =
      "CREATE INDEX ".toList ++ ((indexName label key).toList ++
        " IF NOT EXISTS FOR (n:\x60) ON (n.\x60)".toList) := by
    have hends : " IF NOT EXISTS FOR (n:\x60) ON (n.\x60)".toList =
        " IF NOT EXISTS FOR (n:".toList ++ '\x60' :: (") ON (n.".toList ++ ['\x60', ')']) := by
      simp
    unfold createTokens
    rw [List.map_append, map_outline_char, List.map_cons, List.map_append,
      map_outline_char, hends, List.append_assoc, List.append_assoc]
    rfl
  have hidentifiers : (createTokens label key).filterMap Token.identifier? = [label, key] := by
    unfold createTokens
    simp only [List.filterMap_append, filterMap_identifier?_char, List.filterMap_cons,
      Token.identifier?, List.filterMap_nil, List.nil_append, String.ofList_toList]
  have hsuffix : ((indexName label key).toList ++
      " IF NOT EXISTS FOR (n:\x60) ON (n.\x60)".toList).dropSuffix?
        " IF NOT EXISTS FOR (n:\x60) ON (n.\x60)".toList = some (indexName label key).toList :=
    List.dropSuffix?_eq_some_iff.mpr ⟨_, rfl, beq_self_eq_true _⟩
  have hname : (!(indexName label key).toList.isEmpty &&
      (indexName label key).toList.all Identifier.isPlain) = true := by
    have hne : (indexName label key).toList ≠ [] := by
      simp [indexName]
    have hall : (indexName label key).toList.all Identifier.isPlain = true :=
      List.all_eq_true.mpr fun c hc => isPlain_of_mem_indexName hkey hc
    rw [hall, List.isEmpty_eq_false_iff.mpr hne]
    rfl
  rw [read?, scan_createIndex hkey, Option.bind_eq_bind, Option.bind_some, houtline,
    Option.bind_eq_bind, List.dropPrefix?_append_of_beq _ (beq_self_eq_true _), Option.bind_some,
    hsuffix, Option.bind_some, hidentifiers]
  simp only [hname, if_true, String.ofList_toList]
  rfl

theorem indexName_eq_indexName_iff {label label' key key' : String} (hkey : key ∈ schemaKeys)
    (hkey' : key' ∈ schemaKeys) :
    indexName label key = indexName label' key' ↔
      indexPrefix label = indexPrefix label' ∧ key = key' := by
  refine ⟨fun h => ?_, fun ⟨hstart, hkeys⟩ => by rw [indexName, indexName, hstart, hkeys]⟩
  -- The two keys end differently, so that the last character of a name tells its key.
  have hlast (label : String) {key : String} (hkey : key ∈ schemaKeys) :
      (indexName label key).toList.getLast? = key.toList.getLast? := by
    rw [mem_schemaKeys] at hkey
    rcases hkey with rfl | rfl <;> simp [indexName, uuidKey, typeKey]
  have hends : key.toList.getLast? = key'.toList.getLast? := by
    rw [← hlast label hkey, h, hlast label' hkey']
  have hkeys : key = key' := by
    rw [mem_schemaKeys] at hkey hkey'
    rcases hkey with rfl | rfl <;> rcases hkey' with rfl | rfl
    · rfl
    · exact absurd hends (by decide)
    · exact absurd hends (by decide)
    · rfl
  subst hkeys
  rw [indexName, indexName, String.append_left_inj, String.append_left_inj] at h
  exact ⟨h, rfl⟩

theorem ofLabels_cons (label : String) (labels : List String) :
    ofLabels (label :: labels) =
      ofLabel label uuidKey :: ofLabel label typeKey :: ofLabels labels :=
  rfl

theorem mem_ofLabels {labels : List String} {ix : NodeIndex} :
    ix ∈ ofLabels labels ↔ ∃ label ∈ labels, ∃ key ∈ schemaKeys, ix = ofLabel label key := by
  simp only [ofLabels, List.mem_flatMap, List.mem_map, eq_comm]

/-- The first request with the name of an index is that of the first label with its prefix. -/
theorem find?_ofLabels {label key : String} (hkey : key ∈ schemaKeys) (labels : List String) :
    (ofLabels labels).find? (·.name = indexName label key) =
      (labels.find? (indexPrefix · = indexPrefix label)).map (ofLabel · key) := by
  have hname : ∀ other, ∀ key' ∈ schemaKeys, (ofLabel other key').name = indexName label key ↔
      indexPrefix other = indexPrefix label ∧ key' = key := fun other key' hkey' =>
    indexName_eq_indexName_iff hkey' hkey
  have huuid := fun other => hname other uuidKey uuidKey_mem
  have htype := fun other => hname other typeKey typeKey_mem
  induction labels with
  | nil => rfl
  | cons other labels ih =>
    rw [ofLabels_cons, List.find?_cons, List.find?_cons, List.find?_cons, ih]
    simp only [huuid, htype]
    rw [mem_schemaKeys] at hkey
    by_cases hstart : indexPrefix other = indexPrefix label
    · rcases hkey with rfl | rfl <;> simp [hstart, uuidKey, typeKey]
    · simp [hstart]

/-! ### Runs -/

theorem execute?_createIndex {key : String} (hkey : key ∈ schemaKeys) (store : List NodeIndex)
    (label : String) :
    execute? store (createIndex label key) = some (create store (ofLabel label key)) := by
  rw [execute?, read?_createIndex hkey, Option.map_some]

theorem executeAll?_schemaStatements (store : List NodeIndex) (labels : List String) :
    executeAll? store (schemaStatements labels) =
      some ((ofLabels labels).foldl create store) := by
  induction labels generalizing store with
  | nil => rfl
  | cons label labels ih =>
    have hstatements : schemaStatements (label :: labels) =
        createIndex label uuidKey :: createIndex label typeKey :: schemaStatements labels :=
      rfl
    rw [hstatements, executeAll?, List.foldlM_cons, execute?_createIndex uuidKey_mem,
      Option.bind_eq_bind, Option.bind_some, List.foldlM_cons, execute?_createIndex typeKey_mem,
      Option.bind_eq_bind, Option.bind_some, ofLabels_cons, List.foldl_cons, List.foldl_cons]
    exact ih _

/-- Whether an index has the name that a schema gives it. -/
def IsNamed (ix : NodeIndex) : Prop :=
  ix.name = indexName ix.label ix.key

/-- Among such indexes one on the same label and key has the same name. -/
theorem create_of_isNamed {store : List NodeIndex} {ix : NodeIndex}
    (hstore : ∀ held ∈ store, IsNamed held) (hix : IsNamed ix) :
    create store ix = if ∃ held ∈ store, held.name = ix.name then store else store ++ [ix] := by
  have hname : (∃ held ∈ store, held.name = ix.name ∨ held.label = ix.label ∧ held.key = ix.key) ↔
      ∃ held ∈ store, held.name = ix.name := by
    refine ⟨fun ⟨held, hmem, h⟩ => ⟨held, hmem, ?_⟩, fun ⟨held, hmem, h⟩ => ⟨held, hmem, .inl h⟩⟩
    rcases h with hname | ⟨hlabel, hkey⟩
    · exact hname
    · rw [hstore held hmem, hlabel, hkey, ← hix]
  simp only [create, hname]

/-- A run adds the requests that are the first of their name, where the store has none of it. -/
theorem mem_foldl_create {requests : List NodeIndex} (hrequests : ∀ r ∈ requests, IsNamed r)
    {store : List NodeIndex} (hstore : ∀ held ∈ store, IsNamed held) (ix : NodeIndex) :
    ix ∈ requests.foldl create store ↔
      ix ∈ store ∨ (∀ held ∈ store, held.name ≠ ix.name) ∧
        requests.find? (·.name = ix.name) = some ix := by
  induction requests generalizing store with
  | nil => simp
  | cons request requests ih =>
    obtain ⟨hrequest, hrequests⟩ := List.forall_mem_cons.mp hrequests
    rw [List.foldl_cons, create_of_isNamed hstore hrequest, List.find?_cons]
    split
    next hheld =>
      obtain ⟨held, hmem, hname⟩ := hheld
      rw [ih hrequests hstore]
      by_cases heq : request.name = ix.name
      · have hnot : ¬∀ held ∈ store, held.name ≠ ix.name := fun h =>
          h held hmem (hname.trans heq)
        simp only [hnot, false_and]
      · simp only [heq, decide_false]
    next hnone =>
      have hstore' : ∀ held ∈ store ++ [request], IsNamed held := by
        simp only [List.forall_mem_append, List.forall_mem_singleton]
        exact ⟨hstore, hrequest⟩
      rw [ih hrequests hstore', List.mem_append, List.mem_singleton]
      simp only [List.forall_mem_append, List.forall_mem_singleton]
      by_cases heq : request.name = ix.name
      · have hfree : ∀ held ∈ store, held.name ≠ ix.name := fun held hmem h =>
          hnone ⟨held, hmem, h.trans heq.symm⟩
        have hrequested : ix = request ↔ request = ix := eq_comm
        simp +contextual [heq, hfree, hrequested]
      · have hne : ix ≠ request := fun h => heq (congrArg name h.symm)
        simp [heq, hne]

theorem foldl_create_of_held {requests store : List NodeIndex}
    (hheld : ∀ r ∈ requests, ∃ held ∈ store, held.name = r.name) :
    requests.foldl create store = store := by
  induction requests with
  | nil => rfl
  | cons request requests ih =>
    obtain ⟨⟨held, hmem, hname⟩, hheld⟩ := List.forall_mem_cons.mp hheld
    have hskip : create store request = store := if_pos ⟨held, hmem, .inl hname⟩
    rw [List.foldl_cons, hskip, ih hheld]

theorem isNamed_of_mem_ofLabels {labels : List String} {ix : NodeIndex} (h : ix ∈ ofLabels labels) :
    IsNamed ix := by
  obtain ⟨label, -, key, -, rfl⟩ := mem_ofLabels.mp h
  rfl

/-- The indexes that a schema leaves in a store without any. -/
theorem mem_foldl_ofLabels {labels : List String} {ix : NodeIndex} :
    ix ∈ (ofLabels labels).foldl create [] ↔
      ∃ label, ∃ key ∈ schemaKeys, ix = ofLabel label key ∧
        labels.find? (indexPrefix · = indexPrefix label) = some label := by
  rw [mem_foldl_create (fun _ => isNamed_of_mem_ofLabels) (List.forall_mem_nil _)]
  simp only [List.not_mem_nil, false_or, false_implies, implies_true, true_and]
  constructor
  · intro hfind
    obtain ⟨label, -, key, hkey, rfl⟩ := mem_ofLabels.mp (List.mem_of_find?_eq_some hfind)
    refine ⟨label, key, hkey, rfl, ?_⟩
    obtain ⟨first, hfirst, heq⟩ :=
      Option.map_eq_some_iff.mp ((find?_ofLabels hkey labels).symm.trans hfind)
    obtain rfl : first = label := congrArg NodeIndex.label heq
    exact hfirst
  · rintro ⟨label, key, hkey, rfl, hfirst⟩
    exact (find?_ofLabels hkey labels).trans (by rw [hfirst, Option.map_some])

/-- Each name that a schema asks for is there after it. -/
theorem exists_name_foldl_ofLabels {labels : List String} {ix : NodeIndex}
    (h : ix ∈ ofLabels labels) :
    ∃ held ∈ (ofLabels labels).foldl create [], held.name = ix.name := by
  obtain ⟨label, hlabel, key, hkey, rfl⟩ := mem_ofLabels.mp h
  obtain ⟨first, hfirst⟩ : ∃ first, labels.find? (indexPrefix · = indexPrefix label) = some first :=
    Option.isSome_iff_exists.mp (List.find?_isSome.mpr ⟨label, hlabel, decide_eq_true rfl⟩)
  have hstart : indexPrefix first = indexPrefix label := by
    simpa using List.find?_some hfirst
  refine ⟨ofLabel first key, mem_foldl_ofLabels.mpr ⟨first, key, hkey, rfl, ?_⟩, ?_⟩
  · rw [hstart]
    exact hfirst
  · exact (indexName_eq_indexName_iff hkey hkey).mpr ⟨hstart, rfl⟩

end NodeIndex

open NodeIndex

/-- After a schema a store has the indexes of the first label with each prefix, on both keys, and no
others, and the schema run once more leaves it as it is. All labels have theirs just if no two of
them share a prefix. -/
theorem schema_indexes_first_labels (labels : List String) :
    ∃ store, executeAll? [] (schemaStatements labels) = some store ∧
      (∀ ix, ix ∈ store ↔ ∃ label, ∃ key ∈ schemaKeys, ix = ofLabel label key ∧
        labels.find? (indexPrefix · = indexPrefix label) = some label) ∧
      executeAll? store (schemaStatements labels) = some store ∧
      ((∀ label ∈ labels, ∀ key ∈ schemaKeys, ∃ ix ∈ store, ix.label = label ∧ ix.key = key) ↔
        ∀ label ∈ labels, ∀ other ∈ labels, indexPrefix label = indexPrefix other →
          label = other) := by
  refine ⟨(ofLabels labels).foldl create [], executeAll?_schemaStatements _ _,
    fun ix => mem_foldl_ofLabels, ?_, ?_, ?_⟩
  · rw [executeAll?_schemaStatements,
      foldl_create_of_held fun request hrequest => exists_name_foldl_ofLabels hrequest]
  · -- Both labels are the first with their prefix.
    intro hindexed label hlabel other hother hstart
    have hfirst : ∀ label ∈ labels,
        labels.find? (indexPrefix · = indexPrefix label) = some label := by
      intro label hlabel
      obtain ⟨ix, hix, rfl, -⟩ := hindexed label hlabel uuidKey uuidKey_mem
      obtain ⟨first, key, -, rfl, hfirst⟩ := mem_foldl_ofLabels.mp hix
      exact hfirst
    have h := hfirst label hlabel
    rw [hstart, hfirst other hother] at h
    exact (Option.some.inj h).symm
  · intro hdistinct label hlabel key hkey
    obtain ⟨ix, hix, hname⟩ :=
      exists_name_foldl_ofLabels (mem_ofLabels.mpr ⟨label, hlabel, key, hkey, rfl⟩)
    obtain ⟨first, key', hkey', rfl, hfirst⟩ := mem_foldl_ofLabels.mp hix
    obtain ⟨hstart, hkeys⟩ := (indexName_eq_indexName_iff hkey' hkey).mp hname
    exact ⟨_, hix, hdistinct _ (List.mem_of_find?_eq_some hfirst) _ hlabel hstart, hkeys⟩

/-- The second of two labels with one prefix is without an index. -/
theorem schema_skips_label_with_same_prefix :
    ∃ store, executeAll? [] (schemaStatements ["Blog Post", "Blog_Post"]) = some store ∧
      ∀ ix ∈ store, ix.label ≠ "Blog_Post" := by
  refine ⟨_, executeAll?_schemaStatements _ _, ?_⟩
  decide

end GraphSearch
