import SearchStore.Aggregation.Node
import SearchStore.Aggregation.Result
import SearchStore.Proofs.FirstMention

/-!
Aggregations and the answers to them. The shape of an answer is read off the
aggregation as it stands in the request: a measure answers with its value, terms
with their buckets, and a container counts its documents and holds the answer to
the one aggregation inside it. From such answers each aggregation of the request
gets one result back, under its own name or, for the terms of nested objects,
under the name of the aggregation inside the container.
-/

namespace SearchStore

inductive Finding where
  | measure (value : Option Binary64)
  | terms (options : List AggregateOption)

def Finding.result (key : String) : Finding → AggregateResult
  | .measure value => { key, value }
  | .terms options => { key, options }

def AggregationNode.innerName? : AggregationNode → Option String
  | .nestedTerms _ _ innerName .. => some innerName
  | .terms .. | .min .. | .max .. | .avg .. => none

def AggregationNode.resultKey (node : AggregationNode) : String := node.innerName?.getD node.name

/-- The members by which answers are told apart. -/
def AggregateResult.markers : List String := ["meta", "value", "buckets", "doc_count"]

def NotBoolean (bucket : Json) : Prop :=
  ∀ b, bucket.get? "key_as_string" ≠ some (.str (BucketKey.boolean b).text)

/-- How a bucket carries its term. A boolean is sent as a number with its text. -/
inductive SendsKey (bucket : Json) : BucketKey → Prop
  | string (s : String) (hkey : bucket.get? "key" = some (.str s)) : SendsKey bucket (.string s)
  | long (n : Int) (hkey : bucket.get? "key" = some (.int n)) (hbounds : Json.IsSigned64 n)
      (hnumber : NotBoolean bucket) : SendsKey bucket (.long n)
  | double (x : Binary64) (hkey : bucket.get? "key" = some (.double x))
      (hnumber : NotBoolean bucket) : SendsKey bucket (.double x)
  | boolean (b : Bool) (hkey : bucket.get? "key" = some (.int (if b then 1 else 0)))
      (htext : bucket.get? "key_as_string" = some (.str (BucketKey.boolean b).text)) :
      SendsKey bucket (.boolean b)

structure SendsOption (bucket : Json) (option : AggregateOption) : Prop where
  key : SendsKey bucket option.key
  count : bucket.get? "doc_count" = some (.int option.count)
  bounds : option.count < Nat.pow 2 64

/-- The value of a measure as a number, or `null` where nothing was measured. -/
inductive SendsMeasure : Json → Option Binary64 → Prop
  | nothing : SendsMeasure .null none
  | integer (n : Int) : SendsMeasure (.int n) (some (.ofInt n))
  | double (x : Binary64) : SendsMeasure (.double x) (some x)

/-- The members with which an engine answers an aggregation of a request.
Anything may stand beside the buckets of terms, and metadata beside any answer. -/
inductive Answers : (request : Json) → (members : List (String × Json)) → Finding → Prop
  | measure {request : Json} {members : List (String × Json)} {kind : String} {sent : Json}
      {value : Option Binary64} (hkind : kind ∈ ["min", "max", "avg"])
      (hrequest : (request.get? kind).isSome) (hvalue : members.lookup "value" = some sent)
      (hsent : SendsMeasure sent value) (hbuckets : members.lookup "buckets" = none) :
      Answers request members (.measure value)
  | terms {request : Json} {members : List (String × Json)} {buckets : List Json}
      {options : List AggregateOption} (hrequest : (request.get? "terms").isSome)
      (hbuckets : members.lookup "buckets" = some (.arr buckets))
      (hoptions : List.Forall₂ SendsOption buckets options) :
      Answers request members (.terms options)
  | container {request inner : Json} {members answer : List (String × Json)} {kind key : String}
      {count : Nat} {finding : Finding} (hkind : kind ∈ ["nested", "filter"])
      (hrequest : (request.get? kind).isSome)
      (hinner : request.get? "aggs" = some (.obj [(key, inner)]))
      (hnodup : (members.map Prod.fst).Nodup)
      (hkeys : ∀ member ∈ members, member.1 ∈ ["doc_count", key, "meta"])
      (hcount : ("doc_count", .int count) ∈ members) (hanswer : (key, .obj answer) ∈ members)
      (h : Answers inner answer finding) : Answers request members finding

def AnswersAll (requests responses : List (String × Json)) (finding : String → Finding) : Prop :=
  ∀ name response, (name, response) ∈ responses → ∃ request members,
    (name, request) ∈ requests ∧ response = .obj members ∧ Answers request members (finding name)

theorem NotBoolean.text_ne {bucket : Json} (h : NotBoolean bucket) (b : Bool) :
    (bucket.get? "key_as_string").bind Json.asString? ≠ some (BucketKey.boolean b).text := by
  intro htext
  obtain ⟨text, hget, hread⟩ := Option.bind_eq_some_iff.mp htext
  cases text <;> simp only [Json.asString?, reduceCtorEq, Option.some.injEq] at hread
  exact h b (hread ▸ hget)

theorem BucketKey.ofBucket?_of_sendsKey {bucket : Json} {key : BucketKey}
    (h : SendsKey bucket key) : ofBucket? bucket = some key := by
  cases h with
  | string s hkey => simp [ofBucket?, hkey]
  | long n hkey hbounds hnumber =>
    have htrue := hnumber.text_ne true
    have hfalse := hnumber.text_ne false
    have hsigned : (Json.int n).asSigned? = some n := if_pos hbounds
    simp only [BucketKey.text, if_true, Bool.false_eq_true, if_false] at htrue hfalse
    simp [ofBucket?, hkey, hsigned]
  | double x hkey hnumber =>
    have htrue := hnumber.text_ne true
    have hfalse := hnumber.text_ne false
    simp only [BucketKey.text, if_true, Bool.false_eq_true, if_false] at htrue hfalse
    simp [ofBucket?, hkey, Json.asSigned?, Json.asDouble?]
  | boolean b hkey htext =>
    cases b <;> simp [ofBucket?, hkey, htext, Json.asString?, BucketKey.text]

theorem AggregateOption.ofBucket?_of_sendsOption {bucket : Json} {option : AggregateOption}
    (h : SendsOption bucket option) : ofBucket? bucket = some option := by
  have hcount : Json.asUnsigned? 64 (.int option.count) = some option.count := by
    simp [Json.asUnsigned?, h.bounds]
  simp [ofBucket?, BucketKey.ofBucket?_of_sendsKey h.key, h.count, hcount]

/-- No bucket is passed over. -/
theorem AggregateOption.filterMap_ofBucket? {buckets : List Json} {options : List AggregateOption}
    (h : List.Forall₂ SendsOption buckets options) : buckets.filterMap ofBucket? = options := by
  induction h with
  | nil => rfl
  | cons hoption _ ih => rw [List.filterMap_cons_some (ofBucket?_of_sendsOption hoption), ih]

theorem SendsMeasure.asDouble? {sent : Json} {value : Option Binary64}
    (h : SendsMeasure sent value) : sent.asDouble? = value := by
  cases h <;> rfl

/-- An object has the members of its list. -/
theorem Json.key_of_get?_isSome {key other : String} {value : Json}
    {rest : List (String × Json)} (h : ((Json.obj ((key, value) :: rest)).get? other).isSome) :
    other = key ∨ other ∈ rest.map Prod.fst := by
  obtain ⟨member, hmember, hsame⟩ := List.lookup_isSome_iff.mp h
  obtain rfl := eq_of_beq hsame
  exact List.mem_cons.mp (List.mem_map_of_mem (f := Prod.fst) hmember)

namespace AggregateResult

/-- Objects of which none is to be read. -/
theorem ofContainer_eq_nil {members : List (String × Json)}
    (h : ∀ member ∈ members, member.1 = "meta" ∨ ∃ n, member.2 = .int n) :
    ofContainer members = [] := by
  induction members with
  | nil => rfl
  | cons member rest ih =>
    have hrest := ih fun other hother => h other (List.mem_cons_of_mem _ hother)
    obtain ⟨key, value⟩ := member
    rcases h _ List.mem_cons_self with rfl | ⟨n, rfl⟩
    · cases value <;> simp [ofContainer, hrest]
    · simpa [ofContainer] using hrest

/-- A container with one object in it, its metadata aside. -/
theorem ofContainer_of_mem {key : String} {answer members : List (String × Json)}
    (hnodup : (members.map Prod.fst).Nodup) (hanswer : (key, .obj answer) ∈ members)
    (hkey : key ≠ "meta")
    (hothers : ∀ member ∈ members, member.1 ≠ key → member.1 = "meta" ∨ ∃ n, member.2 = .int n) :
    ofContainer members = ofBody key (.obj answer) := by
  induction members with
  | nil => cases hanswer
  | cons member rest ih =>
    obtain ⟨hnew, hrestNodup⟩ := List.nodup_cons.mp hnodup
    rcases List.mem_cons.mp hanswer with rfl | hrest
    · have hnothing : ofContainer rest = [] := by
        refine ofContainer_eq_nil fun other hother => ?_
        exact hothers other (List.mem_cons_of_mem _ hother) fun hsame =>
          hnew (List.mem_map.mpr ⟨other, hother, hsame⟩)
      rw [ofContainer, if_neg hkey, hnothing, List.append_nil]
    · have hother : member.1 ≠ key := fun hsame =>
        hnew (List.mem_map.mpr ⟨_, hrest, hsame.symm⟩)
      rw [← ih hrestNodup hrest fun other h => hothers other (List.mem_cons_of_mem _ h)]
      obtain ⟨otherKey, value⟩ := member
      rcases hothers _ List.mem_cons_self hother with rfl | ⟨n, rfl⟩
      · cases value <;> simp [ofContainer]
      · rw [ofContainer]
        simp

/-- The answer to a measure. -/
theorem ofBody_of_answers_metric {name kind field : String} {members : List (String × Json)}
    {finding : Finding} (hkind : kind ∈ ["min", "max", "avg"])
    (h : Answers (AggregationNode.metricJson kind field) members finding) :
    ofBody name (.obj members) = [finding.result name] := by
  cases h with
  | measure _ _ hvalue hsent hbuckets =>
    simp [ofBody, hbuckets, hvalue, hsent.asDouble?, Finding.result]
  | terms hrequest =>
    obtain rfl | hnone := Json.key_of_get?_isSome hrequest
    · exact absurd hkind (by decide)
    · cases hnone
  | container hother hrequest =>
    obtain rfl | hnone := Json.key_of_get?_isSome hrequest
    · exact absurd hkind ((by decide : ∀ other ∈ ["nested", "filter"], other ∉ _) _ hother)
    · cases hnone

/-- The answer to terms. -/
theorem ofBody_of_answers_terms {name field orderKey : String} {members : List (String × Json)}
    {finding : Finding} (h : Answers (AggregationNode.termsJson field orderKey) members finding) :
    ofBody name (.obj members) = [finding.result name] := by
  cases h with
  | measure hkind hrequest =>
    obtain rfl | hnone := Json.key_of_get?_isSome hrequest
    · exact absurd hkind (by decide)
    · cases hnone
  | terms _ hbuckets hoptions =>
    simp [ofBody, hbuckets, Json.asArray?, AggregateOption.filterMap_ofBucket? hoptions,
      Finding.result]
  | container hkind hrequest =>
    obtain rfl | hnone := Json.key_of_get?_isSome hrequest
    · exact absurd hkind (by decide)
    · cases hnone

/-- A container is told from the other answers by its count of documents. -/
theorem ofBody_container {name key : String} {count : Nat} {members : List (String × Json)}
    (hkey : key ∉ markers) (hkeys : ∀ member ∈ members, member.1 ∈ ["doc_count", key, "meta"])
    (hcount : ("doc_count", .int count) ∈ members) :
    ofBody name (.obj members) = ofContainer members := by
  have hnone : ∀ marker, marker = "buckets" ∨ marker = "value" → members.lookup marker = none := by
    intro marker hmarker
    refine List.lookup_eq_none_iff.mpr fun member hmember => ?_
    have hmemberKey := hkeys member hmember
    rw [bne_iff_ne]
    rintro rfl
    simp only [markers, List.mem_cons, List.not_mem_nil, or_false, not_or] at hkey hmemberKey
    grind
  have hsome : (members.lookup "doc_count").isSome :=
    List.lookup_isSome_iff.mpr ⟨_, hcount, by simp⟩
  simp [ofBody, hnone, hsome]

/-- The answer to a container is that to the aggregation inside it. -/
theorem ofBody_of_answers_container {name key kind : String} {content inner : Json}
    {members : List (String × Json)} {finding : Finding} (hkind : kind ∈ ["nested", "filter"])
    (hkey : key ∉ markers)
    (h : Answers (.obj [(kind, content), ("aggs", .obj [(key, inner)])]) members finding) :
    ∃ answer, Answers inner answer finding ∧
      ofBody name (.obj members) = ofBody key (.obj answer) := by
  cases h with
  | measure hother hrequest =>
    obtain rfl | haggs := Json.key_of_get?_isSome hrequest
    · exact absurd hkind ((by decide : ∀ other ∈ ["min", "max", "avg"], other ∉ _) _ hother)
    · obtain rfl : _ = "aggs" := List.mem_singleton.mp haggs
      exact absurd hother (by decide)
  | terms hrequest =>
    obtain rfl | haggs := Json.key_of_get?_isSome hrequest
    · exact absurd hkind (by decide)
    · exact absurd (List.mem_singleton.mp haggs : "terms" = "aggs") (by decide)
  | @container _ inner' _ answer _ key' count _ _ _ hinner hnodup hkeys hcount hanswer h =>
    have hne : ("aggs" == kind) = false :=
      beq_false_of_ne (by rintro rfl; exact absurd hkind (by decide))
    simp only [Json.get?, List.lookup_cons, hne, beq_self_eq_true, Option.some.injEq,
      Json.obj.injEq, List.cons.injEq, Prod.mk.injEq, and_true] at hinner
    obtain ⟨rfl, rfl⟩ := hinner
    have hmeta : key ≠ "meta" := by rintro rfl; exact hkey (by decide)
    refine ⟨answer, h, (ofBody_container hkey hkeys hcount).trans ?_⟩
    refine ofContainer_of_mem hnodup hanswer hmeta fun member hmember hother => ?_
    obtain hdoc | hsame | hdata : member.1 = "doc_count" ∨ member.1 = key ∨ member.1 = "meta" := by
      simpa using hkeys member hmember
    · -- The count is the only member of its name, and it is a number.
      obtain rfl := List.inj_on_of_nodup_map hnodup hmember hcount hdoc
      exact .inr ⟨count, rfl⟩
    · exact absurd hsame hother
    · exact .inl hdata

/-- Whatever kind an aggregation is of, its answer is read back under its key. -/
theorem ofBody_of_answers {node : AggregationNode} {members : List (String × Json)}
    {finding : Finding} (hkey : ∀ key, node.innerName? = some key → key ∉ markers)
    (h : Answers node.toJson members finding) :
    ofBody node.name (.obj members) = [finding.result node.resultKey] := by
  cases node with
  | terms name field orderKey => exact ofBody_of_answers_terms h
  | nestedTerms name path innerName field orderKey scope =>
    have hinner : innerName ∉ markers := hkey _ rfl
    cases scope with
    | none =>
      obtain ⟨answer, hanswer, hbody⟩ := ofBody_of_answers_container (by decide) hinner h
      exact hbody.trans (ofBody_of_answers_terms hanswer)
    | some scope =>
      obtain ⟨group, hgroup, houter⟩ := ofBody_of_answers_container (by decide) (by decide) h
      obtain ⟨answer, hanswer, hbody⟩ := ofBody_of_answers_container (by decide) hinner hgroup
      exact houter.trans (hbody.trans (ofBody_of_answers_terms hanswer))
  | min name field => exact ofBody_of_answers_metric (by decide) h
  | max name field => exact ofBody_of_answers_metric (by decide) h
  | avg name field => exact ofBody_of_answers_metric (by decide) h

/-- Bodies with one result each, under the names of some aggregations. -/
theorem ofAggregations_eq_map {responses : List (String × Json)} {nodes : List AggregationNode}
    {result : AggregationNode → AggregateResult}
    (horder : responses.map Prod.fst = nodes.map AggregationNode.name)
    (h : ∀ response ∈ responses, ∀ node ∈ nodes, response.1 = node.name →
      ofBody response.1 response.2 = [result node]) :
    ofAggregations (.obj responses) = nodes.map result := by
  induction responses generalizing nodes with
  | nil => rw [List.map_eq_nil_iff.mp horder.symm]; rfl
  | cons response rest ih =>
    obtain ⟨node, others, rfl, hname, hothers⟩ := List.map_eq_cons_iff.mp horder.symm
    have hfirst := h _ List.mem_cons_self _ List.mem_cons_self hname.symm
    have hrest : ofAggregations (.obj rest) = others.map result :=
      ih hothers.symm fun response hresponse node hnode =>
        h response (List.mem_cons_of_mem _ hresponse) node (List.mem_cons_of_mem _ hnode)
    rw [ofAggregations] at hrest ⊢
    rw [List.flatMap_cons, hrest]
    exact congrArg (· ++ others.map result) hfirst

/-- From the answers to the aggregations of a request one result is read for each
of them, in the order in which they were answered. -/
theorem ofAggregations_of_answersAll {nodes answered : List AggregationNode}
    {requests responses : List (String × Json)} {finding : String → Finding}
    (hnames : (nodes.map AggregationNode.name).Nodup)
    (hkeys : ∀ node ∈ nodes, ∀ key, node.innerName? = some key → key ∉ markers)
    (hrender : AggregationNode.render nodes = .obj requests)
    (hanswered : answered.Perm nodes)
    (horder : responses.map Prod.fst = answered.map AggregationNode.name)
    (h : AnswersAll requests responses finding) :
    ofAggregations (.obj responses) =
      answered.map fun node => (finding node.name).result node.resultKey := by
  have hrequests : nodes.map (fun node => (node.name, node.toJson)) = requests := by
    rw [AggregationNode.render, Json.ofMembers, Json.distinctMembers_of_nodup] at hrender
    · exact Json.obj.inj hrender
    · rwa [List.map_map]
  refine ofAggregations_eq_map horder ?_
  rintro ⟨name, response⟩ hresponse node hnode rfl
  obtain ⟨request, members, hrequest, rfl, hanswers⟩ := h _ _ hresponse
  obtain ⟨asked, hasked, hsame⟩ := List.mem_map.mp (hrequests ▸ hrequest)
  obtain ⟨hname, rfl⟩ := Prod.mk.inj hsame
  have hnodeMem := hanswered.mem_iff.mp hnode
  obtain rfl := List.inj_on_of_nodup_map hnames hasked hnodeMem hname
  exact ofBody_of_answers (hkeys _ hnodeMem) hanswers

end AggregateResult

/-- Terms of orders and of their lines, those of the lines that have a certain
stock number, and three measures. -/
def shopNodes : List AggregationNode :=
  [.terms "Status" "status.keyword" "_key",
    .nestedTerms "Sku" "lines" "lines.sku" "lines.sku.keyword" "_key"
      (some (.term "lines.sku.keyword" (.str "A-1"))),
    .nestedTerms "Quantity" "lines" "lines.quantity" "lines.quantity" "_key" none,
    .min "TotalMin" "total", .max "TotalMax" "total", .avg "PaidAvg" "paid"]

def shopResponses : List (String × Json) :=
  [("Status", .obj [("meta", .obj [("value", .int 7)]), ("sum_other_doc_count", .int 0),
      ("buckets", .arr [.obj [("key", .str "open"), ("doc_count", .int 4)],
        .obj [("key", .int 1), ("key_as_string", .str "true"), ("doc_count", .int 2)]])]),
    ("Sku", .obj [("doc_count", .int 12), ("group_by", .obj [("meta", .obj []),
      ("doc_count", .int 3), ("lines.sku", .obj [("buckets", .arr [])])])]),
    ("Quantity", .obj [("lines.quantity", .obj [("buckets", .arr [
        .obj [("key", .int (-3)), ("doc_count", .int 1)],
        .obj [("key", .double (.ofRatio false 5 2)), ("doc_count", .int 0)]])]),
      ("doc_count", .int 12)]),
    ("TotalMin", .obj [("value", .double (.ofRatio false 3 2))]),
    ("TotalMax", .obj [("value", .int 9), ("meta", .obj [("buckets", .arr [])])]),
    ("PaidAvg", .obj [("value", .null)])]

def shopFinding : String → Finding
  | "Status" => .terms [⟨.string "open", 4⟩, ⟨.boolean true, 2⟩]
  | "Sku" => .terms []
  | "Quantity" => .terms [⟨.long (-3), 1⟩, ⟨.double (.ofRatio false 5 2), 0⟩]
  | "TotalMin" => .measure (some (.ofRatio false 3 2))
  | "TotalMax" => .measure (some (.ofInt 9))
  | _ => .measure none

theorem answersAll_shop :
    AnswersAll (shopNodes.map fun node => (node.name, node.toJson)) shopResponses shopFinding := by
  have hnumber (key : Json) (n : Int) : NotBoolean (.obj [("key", key), ("doc_count", .int n)]) :=
    fun b h => by cases b <;> cases h
  intro name response h
  simp only [shopResponses, List.mem_cons, Prod.mk.injEq, List.not_mem_nil, or_false] at h
  obtain ⟨rfl, rfl⟩ | ⟨rfl, rfl⟩ | ⟨rfl, rfl⟩ | ⟨rfl, rfl⟩ | ⟨rfl, rfl⟩ | ⟨rfl, rfl⟩ := h
  · refine ⟨_, _, .head _, rfl, .terms rfl rfl (.cons ?_ (.cons ?_ .nil))⟩
    · exact ⟨.string _ rfl, rfl, by decide⟩
    · exact ⟨.boolean true rfl rfl, rfl, by decide⟩
  · refine ⟨_, _, .tail _ (.head _), rfl, ?_⟩
    refine .container (by decide : "nested" ∈ _) rfl rfl (by decide)
      (by simp [AggregationNode.groupByKey]) (.head _) (.tail _ (.head _)) ?_
    refine .container (by decide : "filter" ∈ _) rfl rfl (by decide) (by simp)
      (.tail _ (.head _)) (.tail _ (.tail _ (.head _))) ?_
    exact .terms rfl rfl .nil
  · refine ⟨_, _, .tail _ (.tail _ (.head _)), rfl, ?_⟩
    refine .container (by decide : "nested" ∈ _) rfl rfl (by decide) (by simp)
      (.tail _ (.head _)) (.head _) (.terms rfl rfl (.cons ?_ (.cons ?_ .nil)))
    · exact ⟨.long _ rfl (by decide) (hnumber _ _), rfl, by decide⟩
    · exact ⟨.double _ rfl (hnumber _ _), rfl, by decide⟩
  · exact ⟨_, _, .tail _ (.tail _ (.tail _ (.head _))), rfl,
      .measure (by decide : "min" ∈ _) rfl rfl (.double _) rfl⟩
  · exact ⟨_, _, .tail _ (.tail _ (.tail _ (.tail _ (.head _)))), rfl,
      .measure (by decide : "max" ∈ _) rfl rfl (.integer _) rfl⟩
  · exact ⟨_, _, .tail _ (.tail _ (.tail _ (.tail _ (.tail _ (.head _))))), rfl,
      .measure (by decide : "avg" ∈ _) rfl rfl .nothing rfl⟩

/-- Terms of all kinds, with metadata that looks like an answer. -/
theorem AggregateResult.ofAggregations_of_answersAll_shop :
    ofAggregations (.obj shopResponses) =
      [{ key := "Status", options := [⟨.string "open", 4⟩, ⟨.boolean true, 2⟩] },
        { key := "lines.sku" },
        { key := "lines.quantity",
          options := [⟨.long (-3), 1⟩, ⟨.double (.ofRatio false 5 2), 0⟩] },
        { key := "TotalMin", value := some (.ofRatio false 3 2) },
        { key := "TotalMax", value := some (.ofInt 9) },
        { key := "PaidAvg" }] :=
  have hkeys : ∀ node ∈ shopNodes, ∀ key, node.innerName? = some key → key ∉ markers := by
    decide
  ofAggregations_of_answersAll (by decide) hkeys rfl (.refl shopNodes) rfl answersAll_shop

end SearchStore
