import AwesomeNetwork.Extensions.URLRequest
import AwesomeNetwork.Library.FieldList

/-! # The header fields of a request

The headers are added in the order in which the dictionary enumerates its keys. Keys that
differ only in case are one header field, and the values given for them are appended to each
other; all other headers are found in the request as they were given, in whatever order they
were added.
-/

namespace AwesomeNetwork

/-- The keys and values in the order of enumeration. -/
def Dictionary.pairs {Key Value : Type} (dictionary : Dictionary Key Value) : List (Key × Value) :=
  dictionary.entries.map fun entry => (entry.1, entry.2)

/-- The pairs of a dictionary are what it holds under its keys. -/
theorem Dictionary.mem_pairs {Key Value : Type} [DecidableEq Key]
    {dictionary : Dictionary Key Value} {key : Key} {value : Value} :
    (key, value) ∈ dictionary.pairs ↔ dictionary.lookup key = some value := by
  refine Iff.trans ?_ AList.mem_lookup_iff.symm
  constructor
  · intro member
    obtain ⟨entry, present, same⟩ := List.mem_map.mp member
    cases same
    exact present
  · intro present
    exact List.mem_map.mpr ⟨⟨key, value⟩, present, rfl⟩

/-- The pairs are in the order of the keys. -/
theorem Dictionary.pairs_keys {Key Value : Type} (dictionary : Dictionary Key Value) :
    dictionary.pairs.map Prod.fst = dictionary.keys := by
  unfold Dictionary.pairs
  rw [List.map_map]
  rfl

namespace URLRequest

/-- How a value is appended to the one of a header field that is there. -/
def appendValue (before value : String) : String := before ++ "," ++ value

/-- `value(forHTTPHeaderField:)`. -/
def value (urlRequest : URLRequest) (field : String) : Option String :=
  FieldList.lookup String.toLower urlRequest.headerFields field

/-- The same request, the header fields in any order. -/
def SameRequest (first second : URLRequest) : Prop :=
  first.SameResource second ∧ first.timeoutInterval = second.timeoutInterval ∧
    first.headerFields.Perm second.headerFields

/-- No two keys are one header field: the names, which are ASCII tokens, differ in more
than case. -/
def DistinctFields (headers : AwesomeRequesterHeader) : Prop :=
  (headers.keys.map String.toLower).Nodup

instance (headers : AwesomeRequesterHeader) : Decidable (DistinctFields headers) :=
  inferInstanceAs (Decidable (List.Nodup _))

/-- Whatever the order in which the keys are enumerated, the request is the same and each key
is found in it with the value given for it. -/
def AssemblesHeaders (url : URL) (method : Option URLMethod) (bodyData : Option Data)
    (headers : AwesomeRequesterHeader) (timeout : TimeInterval) : Prop :=
  ∀ reordered : AwesomeRequesterHeader, headers.entries.Perm reordered.entries →
    (request url method bodyData (some headers) timeout).SameRequest
        (request url method bodyData (some reordered) timeout) ∧
      ∀ key value, headers.lookup key = some value →
        (request url method bodyData (some reordered) timeout).value key = some value

/-- A value is added to the fields of the request and to nothing else. -/
theorem addValue_eq (urlRequest : URLRequest) (value field : String) :
    urlRequest.addValue value field = { urlRequest with
      headerFields :=
        FieldList.add String.toLower appendValue urlRequest.headerFields (field, value) } := by
  unfold addValue FieldList.add
  split <;> rfl

/-- Values added one after the other are added to the fields. -/
theorem foldl_addValue (urlRequest : URLRequest) (added : List (String × String)) :
    added.foldl (fun current field => current.addValue field.2 field.1) urlRequest =
      { urlRequest with
        headerFields :=
          FieldList.addAll String.toLower appendValue urlRequest.headerFields added } := by
  induction added generalizing urlRequest with
  | nil => rfl
  | cons field added ih =>
      rw [List.foldl_cons, ih, addValue_eq]
      rfl

/-- The loop over the keys adds the keys and values of the dictionary to the header fields. -/
theorem addHeaders_eq (urlRequest : URLRequest) (headers : AwesomeRequesterHeader) :
    urlRequest.addHeaders headers = { urlRequest with
      headerFields :=
        FieldList.addAll String.toLower appendValue urlRequest.headerFields headers.pairs } := by
  rw [← foldl_addValue, addHeaders, ← Dictionary.pairs_keys, List.foldl_map]
  apply List.foldl_ext
  intro current field member
  rw [Dictionary.mem_pairs.mp member]
  rfl

/-- Two orders of the headers leave the rest of the request alone. -/
theorem request_headers (url : URL) (method : Option URLMethod) (bodyData : Option Data)
    (headers : AwesomeRequesterHeader) (timeout : TimeInterval) :
    request url method bodyData (some headers) timeout =
      { request url method bodyData none timeout with
        headerFields := FieldList.addAll String.toLower appendValue [] headers.pairs } := by
  unfold request
  cases method <;> cases bodyData <;> dsimp only <;> rw [addHeaders_eq] <;> split <;> rfl

/-- An appended value makes a field longer. -/
theorem grows_appendValue : FieldList.Grows appendValue String.length := by
  intro before value
  unfold appendValue
  rw [String.length_append, String.length_append]
  have comma : ",".length = 1 := rfl
  omega

/-- The pairs are distinct fields exactly when the keys are. -/
theorem distinctFields_iff {headers : AwesomeRequesterHeader} :
    FieldList.Distinct String.toLower headers.pairs ↔ DistinctFields headers := by
  rw [FieldList.distinct_iff_names, Dictionary.pairs_keys]
  rfl

theorem names_nodup (headers : AwesomeRequesterHeader) :
    (headers.pairs.map Prod.fst).Nodup := by
  rw [Dictionary.pairs_keys]
  exact headers.keys_nodup

section Assembly

variable (url : URL) (method : Option URLMethod) (bodyData : Option Data)
  (timeout : TimeInterval) {headers reordered : AwesomeRequesterHeader}

/-- When the keys are distinct fields, the order does not show. -/
theorem sameRequest_of_distinct (distinct : DistinctFields headers)
    (moved : headers.entries.Perm reordered.entries) :
    (request url method bodyData (some headers) timeout).SameRequest
      (request url method bodyData (some reordered) timeout) := by
  have pairs : headers.pairs.Perm reordered.pairs := moved.map _
  rw [request_headers, request_headers]
  refine ⟨⟨rfl, rfl, rfl⟩, rfl, ?_⟩
  apply (FieldList.addAll_perm_iff (names_nodup headers)).mpr
  · exact distinctFields_iff.mpr distinct
  · exact pairs

/-- The keys are found with their values exactly when no two of them are one header field. -/
theorem values_iff : (∀ key value, headers.lookup key = some value →
    (request url method bodyData (some headers) timeout).value key = some value) ↔
      DistinctFields headers := by
  rw [← distinctFields_iff, ← FieldList.lookup_addAll_iff grows_appendValue, request_headers]
  constructor
  · rintro kept ⟨key, value⟩ member
    exact kept key value (Dictionary.mem_pairs.mp member)
  · intro kept key value present
    exact kept (key, value) (Dictionary.mem_pairs.mpr present)

theorem distinctFields_perm (distinct : DistinctFields headers)
    (moved : headers.entries.Perm reordered.entries) : DistinctFields reordered :=
  ((moved.map Sigma.fst).map String.toLower).nodup_iff.mp distinct

end Assembly

/-- **Header assembly.** It does not depend on the order of the keys and keeps every value
exactly when no two keys are one header field. -/
theorem assemblesHeaders_iff (url : URL) (method : Option URLMethod) (bodyData : Option Data)
    (headers : AwesomeRequesterHeader) (timeout : TimeInterval) :
    AssemblesHeaders url method bodyData headers timeout ↔ DistinctFields headers := by
  constructor
  · intro assembles
    exact (values_iff url method bodyData timeout).mp (assembles headers (List.Perm.refl _)).2
  · intro distinct reordered moved
    refine ⟨sameRequest_of_distinct url method bodyData timeout distinct moved, ?_⟩
    intro key value present
    rw [AList.perm_lookup moved] at present
    exact (values_iff url method bodyData timeout).mpr (distinctFields_perm distinct moved)
      key value present

/-- Two keys that differ only in case. -/
def acceptHeaders : AwesomeRequesterHeader := (AList.singleton "accept" "b").insert "Accept" "a"

/-- The same dictionary, enumerated the other way round. -/
def acceptHeadersReordered : AwesomeRequesterHeader :=
  (AList.singleton "Accept" "a").insert "accept" "b"

/-- A request with the given headers. -/
def acceptRequest (headers : AwesomeRequesterHeader) : URLRequest :=
  request ⟨some "https", some "a.example", "/", none⟩ (some .GET) none (some headers) 15

/-- The fields of that request are the headers, added in their order. -/
theorem acceptRequest_headerFields (headers : AwesomeRequesterHeader) :
    (acceptRequest headers).headerFields =
      FieldList.addAll String.toLower appendValue [] headers.pairs := by
  unfold acceptRequest
  rw [request_headers]

/-- Both keys are read back as one value, and the order of enumeration decides which. -/
theorem headers_depend_on_order :
    acceptHeaders.entries.Perm acceptHeadersReordered.entries ∧
      acceptHeaders.lookup "Accept" = some "a" ∧
      (acceptRequest acceptHeaders).value "Accept" = some "a,b" ∧
      (acceptRequest acceptHeadersReordered).value "Accept" = some "b,a" ∧
      ¬ AssemblesHeaders ⟨some "https", some "a.example", "/", none⟩ (some .GET) none
        acceptHeaders 15 := by
  have same : "accept".toLower = "Accept".toLower := by
    apply String.toList_injective
    unfold String.toLower
    rw [String.toList_map, String.toList_map]
    decide
  have pairs : acceptHeaders.pairs = [("Accept", "a"), ("accept", "b")] := by decide
  have pairs' : acceptHeadersReordered.pairs = [("accept", "b"), ("Accept", "a")] := by decide
  have value : (acceptRequest acceptHeaders).value "Accept" = some "a,b" := by
    unfold URLRequest.value
    rw [acceptRequest_headerFields, FieldList.lookup_addAll, pairs]
    simp [FieldList.given, FieldList.lookup, FieldList.combineOnto, same, appendValue]
  have reordered : (acceptRequest acceptHeadersReordered).value "Accept" = some "b,a" := by
    unfold URLRequest.value
    rw [acceptRequest_headerFields, FieldList.lookup_addAll, pairs']
    simp [FieldList.given, FieldList.lookup, FieldList.combineOnto, same, appendValue]
  refine ⟨by decide, by decide, value, reordered, ?_⟩
  intro assembles
  have found := (assembles acceptHeaders (List.Perm.refl _)).2 "Accept" "a" (by decide)
  exact absurd (value.symm.trans found) (by decide)

end URLRequest

end AwesomeNetwork
