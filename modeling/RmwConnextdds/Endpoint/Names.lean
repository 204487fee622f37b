import Mathlib.Data.List.Basic

/-! # The DDS names of ROS types and topics

`rmw_connextdds_create_type_name` builds the name under which a ROS type is registered with the
engine: the type's namespace followed by `::` (when it has one), `dds` (`dds_` when names are
mangled), `::`, the type's name and a suffix. A message type's suffix is `_` when names are
mangled and empty otherwise; a service's request and response types take `_Request_` and
`_Response_`, or `Request` and `Response`.

`rmw_connextdds_create_topic_name` builds a DDS topic name from a prefix, the ROS name and a
suffix, dropping the prefix when the QoS profile asks to avoid the ROS namespace conventions.
`RMW_Connext_Publisher::create` and `RMW_Connext_Subscriber::create` take a topic name that starts
with `rr/` or `rq/` as it is and prefix any other with `rt` (`fqtopicName`);
`RMW_Connext_Client::create` and `RMW_Connext_Service::create` name a service's topics `rq`, the
service name and `Request`, and `rr`, the service name and `Reply`, and hand them to the
publisher and subscriber they create.

`register_type_support` registers a type under its name unless a type of that name is
registered already, and `assert_topic` finds a topic by name before creating one
(`RmwConnextdds.Endpoint.Create`), so two ROS types must never get one type name and two ROS
topics never one topic name.

* `createTypeName_injective`: for a suffix without `:`, the name determines the namespace and the
  type's name when that has no `:` (ROS type names are identifiers). The name is found after the
  last `:` (`append_sep_last_inj`).
* `typeNames_identify_types`: message, request and response type names each determine namespace
  and name, and no request type name is a response type name.
* `fqtopicName_injective`: for either setting of the conventions, the DDS topic name of an
  endpoint determines its ROS topic name.
* `topicNames_separate`: under the conventions, for service names that are fully qualified
  (they start with `/`), distinct services get distinct request and reply topics, no request
  topic is a reply topic, and a topic that does not start with `rq/` or `rr/` is neither.

## Transcription choices

* Strings are lists of characters; what `std::ostringstream` writes and `std::string` `+` build
  is the concatenation.
* The three overloads for message type supports (`message_type_support_callbacks_t` and the two
  introspection `MessageMembers`) read the same two fields and are one definition,
  `createTypeNameMessage`.
* The overload of `rmw_connextdds_create_topic_name` taking a QoS profile reads only its
  `avoid_ros_namespace_conventions`, which is the `Bool` argument. `str_topic.find(p) == 0`
  holds exactly when `p` is a prefix of `str_topic`.
-/
namespace RmwConnextdds
set_option autoImplicit false

/-! ## The builders -/

/-- The namespace part: the namespace and `::`, or nothing for an empty namespace. -/
def namespacePart (messageNamespace : List Char) : List Char :=
  if messageNamespace.isEmpty then [] else messageNamespace ++ "::".toList

/-- The static `rmw_connextdds_create_type_name`. -/
def createTypeName (messageNamespace messageName messageSuffix : List Char) (manglePrefix : Bool) :
    List Char :=
  let prefixSfx := if manglePrefix then "_".toList else []
  namespacePart messageNamespace ++ "dds".toList ++ prefixSfx ++ "::".toList ++ messageName ++
    messageSuffix

/-- `rmw_connextdds_create_type_name` of a message type support, all three overloads. -/
def createTypeNameMessage (messageNamespace messageName : List Char) (mangleNames : Bool) :
    List Char :=
  createTypeName messageNamespace messageName (if mangleNames then "_".toList else []) mangleNames

/-- `rmw_connextdds_create_type_name_request`. -/
def createTypeNameRequest (serviceNamespace serviceName : List Char) (mangleNames : Bool) :
    List Char :=
  createTypeName serviceNamespace serviceName
    (if mangleNames then "_Request_".toList else "Request".toList) mangleNames

/-- `rmw_connextdds_create_type_name_response`. -/
def createTypeNameResponse (serviceNamespace serviceName : List Char) (mangleNames : Bool) :
    List Char :=
  createTypeName serviceNamespace serviceName
    (if mangleNames then "_Response_".toList else "Response".toList) mangleNames

example : createTypeNameMessage "std_msgs::msg".toList "String".toList true =
    "std_msgs::msg::dds_::String_".toList := by decide

/-! ## Reading a name back -/

theorem append_sep_first_inj {c : Char} :
    ∀ {xs xs' ys ys' : List Char}, c ∉ xs → c ∉ xs' → xs ++ c :: ys = xs' ++ c :: ys' →
      xs = xs' ∧ ys = ys'
  | [], [], _, _, _, _, h => ⟨rfl, (List.cons.inj h).2⟩
  | [], x :: _, _, _, _, hx', h => absurd (List.mem_cons.2 (.inl (List.cons.inj h).1)) hx'
  | x :: _, [], _, _, hx, _, h => absurd (List.mem_cons.2 (.inl (List.cons.inj h).1.symm)) hx
  | x :: t, x' :: t', _, _, hx, hx', h => by
    simp only [List.cons_append, List.cons.injEq] at h
    obtain ⟨rfl, rfl⟩ := append_sep_first_inj (List.not_mem_of_not_mem_cons hx)
      (List.not_mem_of_not_mem_cons hx') h.2
    exact ⟨by rw [h.1], rfl⟩

/-- Two lists split at a separator that occurs in neither last part split the same way. -/
theorem append_sep_last_inj {c : Char} {xs xs' ys ys' : List Char} (hy : c ∉ ys) (hy' : c ∉ ys')
    (h : xs ++ c :: ys = xs' ++ c :: ys') : xs = xs' ∧ ys = ys' := by
  have hr := congrArg List.reverse h
  simp only [List.reverse_append, List.reverse_cons, List.append_assoc, List.singleton_append]
    at hr
  obtain ⟨h₁, h₂⟩ := append_sep_first_inj (by simpa using hy) (by simpa using hy') hr
  exact ⟨List.reverse_injective h₂, List.reverse_injective h₁⟩

theorem namespacePart_injective {a b : List Char} (h : namespacePart a = namespacePart b) :
    a = b := by
  cases a <;> cases b <;> simp_all [namespacePart]

theorem createTypeName_eq (ns name sfx : List Char) (m : Bool) :
    createTypeName ns name sfx m =
      (namespacePart ns ++ "dds".toList ++ (if m then "_".toList else []) ++ [':']) ++
        ':' :: (name ++ sfx) := by
  simp [createTypeName]

/-- For a suffix without `:`, a type name determines the namespace and the type's name when that
has no `:`. -/
theorem createTypeName_injective {ns₁ ns₂ n₁ n₂ sfx : List Char} {m : Bool} (h₁ : ':' ∉ n₁)
    (h₂ : ':' ∉ n₂) (hs : ':' ∉ sfx)
    (h : createTypeName ns₁ n₁ sfx m = createTypeName ns₂ n₂ sfx m) :
    ns₁ = ns₂ ∧ n₁ = n₂ := by
  rw [createTypeName_eq, createTypeName_eq] at h
  obtain ⟨hp, hn⟩ := append_sep_last_inj (by simp [h₁, hs]) (by simp [h₂, hs]) h
  exact ⟨namespacePart_injective (List.append_cancel_right (List.append_cancel_right
    (List.append_cancel_right hp))), List.append_cancel_right hn⟩

theorem take_reverse_createTypeName (ns name sfx : List Char) (m : Bool) (hs : 2 ≤ sfx.length) :
    (createTypeName ns name sfx m).reverse.take 2 = sfx.reverse.take 2 := by
  rw [createTypeName, List.reverse_append, List.take_append_of_le_length (by simpa using hs)]

/-! ## Message, request and response type names -/

/-- Within one kind and one mangling setting, a type name determines the namespace and the
type's name when that has no `:`; a request type name is never a response type name. -/
theorem typeNames_identify_types {ns₁ ns₂ n₁ n₂ : List Char} (m : Bool) (h₁ : ':' ∉ n₁)
    (h₂ : ':' ∉ n₂) :
    (createTypeNameMessage ns₁ n₁ m = createTypeNameMessage ns₂ n₂ m → ns₁ = ns₂ ∧ n₁ = n₂) ∧
      (createTypeNameRequest ns₁ n₁ m = createTypeNameRequest ns₂ n₂ m → ns₁ = ns₂ ∧ n₁ = n₂) ∧
      (createTypeNameResponse ns₁ n₁ m = createTypeNameResponse ns₂ n₂ m →
        ns₁ = ns₂ ∧ n₁ = n₂) ∧
      createTypeNameRequest ns₁ n₁ m ≠ createTypeNameResponse ns₂ n₂ m := by
  refine ⟨createTypeName_injective h₁ h₂ (by cases m <;> decide),
    createTypeName_injective h₁ h₂ (by cases m <;> decide),
    createTypeName_injective h₁ h₂ (by cases m <;> decide), fun h => ?_⟩
  have h2 := congrArg (fun s => s.reverse.take 2) h
  simp only [createTypeNameRequest, createTypeNameResponse] at h2
  rw [take_reverse_createTypeName _ _ _ _ (by cases m <;> decide),
    take_reverse_createTypeName _ _ _ _ (by cases m <;> decide)] at h2
  cases m <;> simp at h2

theorem typeNames_identify_types_stdMsgs :
    ':' ∉ "String".toList ∧ ':' ∉ "Bool".toList ∧
      ((createTypeNameMessage "std_msgs::msg".toList "String".toList true =
          createTypeNameMessage "std_msgs::msg".toList "Bool".toList true →
          "std_msgs::msg".toList = "std_msgs::msg".toList ∧ "String".toList = "Bool".toList) ∧
        (createTypeNameRequest "std_msgs::msg".toList "String".toList true =
          createTypeNameRequest "std_msgs::msg".toList "Bool".toList true →
          "std_msgs::msg".toList = "std_msgs::msg".toList ∧ "String".toList = "Bool".toList) ∧
        (createTypeNameResponse "std_msgs::msg".toList "String".toList true =
          createTypeNameResponse "std_msgs::msg".toList "Bool".toList true →
          "std_msgs::msg".toList = "std_msgs::msg".toList ∧ "String".toList = "Bool".toList) ∧
        createTypeNameRequest "std_msgs::msg".toList "String".toList true ≠
          createTypeNameResponse "std_msgs::msg".toList "Bool".toList true) :=
  ⟨by decide, by decide, typeNames_identify_types true (by decide) (by decide)⟩

/-! ## Topic names -/

/-- `ROS_TOPIC_PREFIX`. -/
def rosTopicPrefix : List Char := "rt".toList

/-- `ROS_SERVICE_REQUESTER_PREFIX`. -/
def rosServiceRequesterPrefix : List Char := "rq".toList

/-- `ROS_SERVICE_RESPONSE_PREFIX`. -/
def rosServiceResponsePrefix : List Char := "rr".toList

/-- `rmw_connextdds_create_topic_name`, both overloads. -/
def createTopicName (pfx topicName sfx : List Char) (avoidRosNamespaceConventions : Bool) :
    List Char :=
  if avoidRosNamespaceConventions then topicName ++ sfx else pfx ++ topicName ++ sfx

/-- Whether `RMW_Connext_Publisher::create` and `RMW_Connext_Subscriber::create` take a topic name
as it is: it starts with `prefix_rep` or `prefix_req`. -/
def isServiceTopicName (topicName : List Char) : Bool :=
  (rosServiceResponsePrefix ++ ['/']).isPrefixOf topicName ||
    (rosServiceRequesterPrefix ++ ['/']).isPrefixOf topicName

/-- `fqtopic_name` of `RMW_Connext_Publisher::create` and `RMW_Connext_Subscriber::create`. -/
def fqtopicName (topicName : List Char) (avoidRosNamespaceConventions : Bool) : List Char :=
  if isServiceTopicName topicName then topicName
  else createTopicName rosTopicPrefix topicName [] avoidRosNamespaceConventions

/-- `request_topic` of `RMW_Connext_Client::create` and `RMW_Connext_Service::create`. -/
def requestTopic (svcName : List Char) (avoidRosNamespaceConventions : Bool) : List Char :=
  createTopicName rosServiceRequesterPrefix svcName "Request".toList avoidRosNamespaceConventions

/-- `reply_topic` of `RMW_Connext_Client::create` and `RMW_Connext_Service::create`. -/
def replyTopic (svcName : List Char) (avoidRosNamespaceConventions : Bool) : List Char :=
  createTopicName rosServiceResponsePrefix svcName "Reply".toList avoidRosNamespaceConventions

example : fqtopicName (requestTopic "/add_two_ints".toList false) false =
    "rq/add_two_intsRequest".toList := by decide

theorem isServiceTopicName_rosTopicPrefix (x : List Char) :
    isServiceTopicName (rosTopicPrefix ++ x) = false := rfl

theorem fqtopicName_avoid (t : List Char) : fqtopicName t true = t := by
  unfold fqtopicName
  split <;> simp [createTopicName]

theorem fqtopicName_of_service {t : List Char} (ht : isServiceTopicName t = true) (a : Bool) :
    fqtopicName t a = t := by
  simp [fqtopicName, ht]

theorem fqtopicName_of_not_service {t : List Char} (ht : isServiceTopicName t = false) :
    fqtopicName t false = rosTopicPrefix ++ t := by
  simp [fqtopicName, createTopicName, ht]

theorem fqtopicName_requestTopic {s : List Char} (hs : s.head? = some '/') :
    fqtopicName (requestTopic s false) false =
      rosServiceRequesterPrefix ++ s ++ "Request".toList := by
  obtain ⟨s, rfl⟩ : ∃ s₀, s = '/' :: s₀ := ⟨s.tail, List.eq_cons_of_mem_head? hs⟩
  simp [fqtopicName, requestTopic, createTopicName, isServiceTopicName, rosServiceRequesterPrefix,
    rosServiceResponsePrefix, List.isPrefixOf]

theorem fqtopicName_replyTopic {s : List Char} (hs : s.head? = some '/') :
    fqtopicName (replyTopic s false) false = rosServiceResponsePrefix ++ s ++ "Reply".toList := by
  obtain ⟨s, rfl⟩ : ∃ s₀, s = '/' :: s₀ := ⟨s.tail, List.eq_cons_of_mem_head? hs⟩
  simp [fqtopicName, replyTopic, createTopicName, isServiceTopicName, rosServiceResponsePrefix,
    List.isPrefixOf]

/-- For either setting of the conventions, an endpoint's DDS topic name determines its ROS topic
name: a name taken as it is starts with `rr/` or `rq/`, and a prefixed one with `rt`. -/
theorem fqtopicName_injective (avoid : Bool) : Function.Injective (fqtopicName · avoid) := by
  intro t t' (h : fqtopicName t avoid = fqtopicName t' avoid)
  cases avoid
  case true => simpa only [fqtopicName_avoid] using h
  case false =>
    cases ht : isServiceTopicName t <;> cases ht' : isServiceTopicName t'
    · rw [fqtopicName_of_not_service ht, fqtopicName_of_not_service ht'] at h
      exact List.append_cancel_left h
    · rw [fqtopicName_of_not_service ht, fqtopicName_of_service ht'] at h
      rw [← h, isServiceTopicName_rosTopicPrefix] at ht'
      cases ht'
    · rw [fqtopicName_of_service ht, fqtopicName_of_not_service ht'] at h
      rw [h, isServiceTopicName_rosTopicPrefix] at ht
      cases ht
    · rwa [fqtopicName_of_service ht, fqtopicName_of_service ht'] at h

/-- For either setting of the conventions an endpoint's DDS topic name determines its ROS topic
name. Under the ROS naming conventions and for fully qualified service names: distinct services
get distinct request topics and distinct reply topics, no request topic is a reply topic, and an
endpoint's topic that does not start with `rr/` or `rq/` is neither. -/
theorem topicNames_separate {t s s' : List Char} (ht : isServiceTopicName t = false)
    (hs : s.head? = some '/') (hs' : s'.head? = some '/') :
    (∀ avoid, Function.Injective (fqtopicName · avoid)) ∧
      (fqtopicName (requestTopic s false) false = fqtopicName (requestTopic s' false) false →
        s = s') ∧
      (fqtopicName (replyTopic s false) false = fqtopicName (replyTopic s' false) false →
        s = s') ∧
      fqtopicName (requestTopic s false) false ≠ fqtopicName (replyTopic s' false) false ∧
      fqtopicName t false ≠ fqtopicName (requestTopic s false) false ∧
      fqtopicName t false ≠ fqtopicName (replyTopic s false) false := by
  refine ⟨fqtopicName_injective, ?_⟩
  rw [fqtopicName_requestTopic hs, fqtopicName_requestTopic hs', fqtopicName_replyTopic hs,
    fqtopicName_replyTopic hs', fqtopicName_of_not_service ht]
  refine ⟨fun h => ?_, fun h => ?_, ?_, ?_, ?_⟩
  · exact List.append_cancel_left (List.append_cancel_right h)
  · exact List.append_cancel_left (List.append_cancel_right h)
  all_goals simp [rosTopicPrefix, rosServiceRequesterPrefix, rosServiceResponsePrefix]

theorem topicNames_separate_addTwoInts :
    isServiceTopicName "/chatter".toList = false ∧ ("/add_two_ints".toList).head? = some '/' ∧
      ("/add_two_ints".toList).head? = some '/' ∧
      ((∀ avoid, Function.Injective (fqtopicName · avoid)) ∧
        (fqtopicName (requestTopic "/add_two_ints".toList false) false =
          fqtopicName (requestTopic "/add_two_ints".toList false) false →
          "/add_two_ints".toList = "/add_two_ints".toList) ∧
        (fqtopicName (replyTopic "/add_two_ints".toList false) false =
          fqtopicName (replyTopic "/add_two_ints".toList false) false →
          "/add_two_ints".toList = "/add_two_ints".toList) ∧
        fqtopicName (requestTopic "/add_two_ints".toList false) false ≠
          fqtopicName (replyTopic "/add_two_ints".toList false) false ∧
        fqtopicName "/chatter".toList false ≠
          fqtopicName (requestTopic "/add_two_ints".toList false) false ∧
        fqtopicName "/chatter".toList false ≠
          fqtopicName (replyTopic "/add_two_ints".toList false) false) :=
  ⟨by decide, rfl, rfl, topicNames_separate (by decide) rfl rfl⟩

end RmwConnextdds
