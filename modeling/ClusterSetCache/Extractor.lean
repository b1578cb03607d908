import ClusterSetCache.Objects

/-!
# The resource-name extractor

Both caches are built with a function that reads a `ClusterRole` for the names
it grants on an (api group, resource) pair, and for whether it grants every
name.  `GetViewResourceFromClusterRole` of `pkg/utils/role.go` is that function
for the view scope.  It visits the role's rules in order and skips a rule
unless its api groups, its verbs and its resources all match.  The first
matching rule that lists no resource names ends the loop with all-access;
every other matching rule inserts its names.

The refactoring of `pkg/utils` keeps `GetViewResourceFromClusterRole` and
`GetAdminResourceFromClusterRole` and adds one loop for both,
`getResourceFromClusterRole`, whose verb check is `hasRequiredVerbs` of a
`PermissionType`; `GetPermissionScope` wraps its answer in a `PermissionScope`.
The three extractors are one loop here, `resourceNamesLoop`, with the verb
check that skips a rule as its parameter.

* `resourceNamesLoop_cons` says what one rule does: it ends the loop, or it
  inserts its names when it passes the checks and nothing when it does not.
* `getViewResourceFromClusterRole_eq`: the extractor reports all-access iff a
  matching rule lists no names, and returns the names of the matching rules
  before the first such rule.  On all-access these are the names gathered so
  far, not the empty set.
* `canAccessResource_getPermissionScope`: a scope grants a name iff some rule
  of the role allows it, as the RBAC authorizer reads one rule.  Neither the
  order of the rules nor the early exit changes what a role grants.
* `admin_canAccessResource_view`: a name the admin scope grants, the view
  scope grants, though the admin names need not be among the view names
  (`admin_specificResources_not_mem_view`).

`getResourceFromClusterRole`, `GetAdminResourceFromClusterRole`,
`GetPermissionScope` and its wrappers have no body in the sources: the
refactoring summary of `pkg/utils` gives their verb checks, their signatures
and the loop they share with `GetViewResourceFromClusterRole`, and they are
modelled from it.

`APIGroupMatches`, `VerbMatches` and `ResourceMatches` are the RBAC matchers of
Kubernetes: a rule matches a value it lists, and every value when it lists
`"*"`.
-/

namespace ClusterSetCache

/-! ## Matching one rule -/

/-- `APIGroupMatches`. -/
def apiGroupMatches (rule : PolicyRule) (requestedGroup : String) : Bool :=
  rule.apiGroups.any fun ruleGroup => ruleGroup = "*" || ruleGroup = requestedGroup

/-- `VerbMatches`. -/
def verbMatches (rule : PolicyRule) (requestedVerb : String) : Bool :=
  rule.verbs.any fun ruleVerb => ruleVerb = "*" || ruleVerb = requestedVerb

/-- `ResourceMatches(rule, resource, "")`, the only call the extractors make:
with no subresource requested, a rule matches the resources it lists and
`"*"`. -/
def resourceMatches (rule : PolicyRule) (combinedRequestedResource : String) : Bool :=
  rule.resources.any fun ruleResource =>
    ruleResource = "*" || ruleResource = combinedRequestedResource

/-- The verb check of `GetViewResourceFromClusterRole`: the rule is skipped
unless it has `get`, `list` or `*`. -/
def viewVerbsMissing (rule : PolicyRule) : Bool :=
  !verbMatches rule "get" && !verbMatches rule "list" && !verbMatches rule "*"

/-- The verb check of `GetAdminResourceFromClusterRole` before the
refactoring: the rule is skipped unless it has `update` with `get` or `list`,
or `*`. -/
def adminVerbsMissing (rule : PolicyRule) : Bool :=
  !(verbMatches rule "update" && (verbMatches rule "get" || verbMatches rule "list")) &&
    !verbMatches rule "*"

/-- `PermissionType`. -/
inductive PermissionType
  /-- `ViewPermission`. -/
  | viewPermission
  /-- `AdminPermission`. -/
  | adminPermission
deriving DecidableEq

/-- `hasRequiredVerbs`. -/
def hasRequiredVerbs (rule : PolicyRule) (permissionType : PermissionType) : Bool :=
  if verbMatches rule "*" then true
  else
    match permissionType with
    | .viewPermission => verbMatches rule "get" || verbMatches rule "list"
    | .adminPermission =>
      let hasUpdate := verbMatches rule "update"
      let hasRead := verbMatches rule "get" || verbMatches rule "list"
      hasUpdate && hasRead

theorem hasRequiredVerbs_view_of_admin {rule : PolicyRule} :
    hasRequiredVerbs rule .adminPermission = true →
      hasRequiredVerbs rule .viewPermission = true := by
  unfold hasRequiredVerbs
  cases verbMatches rule "*" <;> simp +contextual

/-! ## The loop -/

section Loop

variable (verbsMissing : PolicyRule → Bool) (group resource : String)

/-- The loop of the extractors, over the rules not yet visited and the names
inserted so far.  A rule is skipped unless its api groups, its verbs and its
resources match; a matching rule that lists no names returns at once. -/
def resourceNamesLoop : List PolicyRule → Finset String → Finset String × Bool
  | [], names => (names, false)
  | rule :: rules, names =>
    if !apiGroupMatches rule group then resourceNamesLoop rules names
    else if verbsMissing rule then resourceNamesLoop rules names
    else if !resourceMatches rule resource then resourceNamesLoop rules names
    else if rule.resourceNames.isEmpty then (names, true)
    else resourceNamesLoop rules (names ∪ rule.resourceNames.toFinset)

/-- A rule the loop does not skip. -/
def passesChecks (rule : PolicyRule) : Bool :=
  apiGroupMatches rule group && !verbsMissing rule && resourceMatches rule resource

/-- A rule that ends the loop with all-access. -/
def grantsAll (rule : PolicyRule) : Bool :=
  passesChecks verbsMissing group resource rule && rule.resourceNames.isEmpty

/-- The names of the rules the loop does not skip, before the first rule that
ends it. -/
def namesBeforeExit (rules : List PolicyRule) : Finset String :=
  (((rules.takeWhile fun rule => !grantsAll verbsMissing group resource rule).filter
    (passesChecks verbsMissing group resource)).flatMap (·.resourceNames)).toFinset

/-- The step lemma: one rule ends the loop, or inserts its names if it passes
the checks and nothing if it does not. -/
theorem resourceNamesLoop_cons (rule : PolicyRule) (rules : List PolicyRule)
    (names : Finset String) :
    resourceNamesLoop verbsMissing group resource (rule :: rules) names =
      if grantsAll verbsMissing group resource rule then (names, true)
      else resourceNamesLoop verbsMissing group resource rules
        (names ∪ if passesChecks verbsMissing group resource rule then
          rule.resourceNames.toFinset else ∅) := by
  unfold grantsAll passesChecks
  simp only [resourceNamesLoop]
  cases apiGroupMatches rule group <;> cases verbsMissing rule <;>
    cases resourceMatches rule resource <;> cases rule.resourceNames.isEmpty <;> simp

/-- The run lemma: the loop returns the names of the rules before the first
one that ends it, and reports all-access iff some rule ends it. -/
theorem resourceNamesLoop_eq :
    ∀ (rules : List PolicyRule) (names : Finset String),
      resourceNamesLoop verbsMissing group resource rules names =
        (names ∪ namesBeforeExit verbsMissing group resource rules,
          rules.any (grantsAll verbsMissing group resource))
  | [], names => by simp [resourceNamesLoop, namesBeforeExit]
  | rule :: rules, names => by
    rw [resourceNamesLoop_cons, resourceNamesLoop_eq rules]
    by_cases hall : grantsAll verbsMissing group resource rule
    · simp [namesBeforeExit, hall]
    · by_cases hp : passesChecks verbsMissing group resource rule <;>
        simp [namesBeforeExit, hall, hp, Finset.union_assoc]

/-- What the loop grants: all-access or a name it returns, iff the name was
inserted before or a rule passing the checks lists no names or lists it. -/
theorem resourceNamesLoop_grants (name : String) :
    ∀ (rules : List PolicyRule) (names : Finset String),
      (resourceNamesLoop verbsMissing group resource rules names).2 = true ∨
          name ∈ (resourceNamesLoop verbsMissing group resource rules names).1 ↔
        name ∈ names ∨ ∃ rule ∈ rules, passesChecks verbsMissing group resource rule = true ∧
          (rule.resourceNames = [] ∨ name ∈ rule.resourceNames)
  | [], names => by simp [resourceNamesLoop]
  | rule :: rules, names => by
    rw [resourceNamesLoop_cons]
    by_cases hall : grantsAll verbsMissing group resource rule
    · rw [if_pos hall]
      simp only [grantsAll, Bool.and_eq_true, List.isEmpty_iff] at hall
      simp [hall]
    · rw [if_neg hall, resourceNamesLoop_grants name rules]
      simp only [grantsAll, Bool.and_eq_true, List.isEmpty_iff, not_and] at hall
      by_cases hp : passesChecks verbsMissing group resource rule
      · simp [hp, hall hp, or_assoc]
      · simp [hp]

end Loop

/-! ## The extractors -/

/-- `GetViewResourceFromClusterRole`. -/
def getViewResourceFromClusterRole (clusterRole : ClusterRole) (group resource : String) :
    Finset String × Bool :=
  resourceNamesLoop viewVerbsMissing group resource clusterRole.rules ∅

/-- Modelled from the spec: `GetAdminResourceFromClusterRole`, before the
refactoring, the view loop with the admin verb check. -/
def getAdminResourceFromClusterRole (clusterRole : ClusterRole) (group resource : String) :
    Finset String × Bool :=
  resourceNamesLoop adminVerbsMissing group resource clusterRole.rules ∅

/-- Modelled from the spec: `getResourceFromClusterRole`, the same loop,
skipping a rule without the verbs `hasRequiredVerbs` asks of the permission
type. -/
def getResourceFromClusterRole (clusterRole : ClusterRole) (group resource : String)
    (permissionType : PermissionType) : Finset String × Bool :=
  resourceNamesLoop (fun rule => !hasRequiredVerbs rule permissionType) group resource
    clusterRole.rules ∅

/-- `PermissionScope`. -/
structure PermissionScope where
  /-- `HasGlobalAccess`. -/
  hasGlobalAccess : Bool
  /-- `SpecificResources`. -/
  specificResources : Finset String

/-- Modelled from the spec: `CanAccessResource`, `all || names.Has(resourceName)`
as the callers of the old extractors read its answer. -/
def PermissionScope.canAccessResource (ps : PermissionScope) (resourceName : String) : Bool :=
  ps.hasGlobalAccess || decide (resourceName ∈ ps.specificResources)

/-- Modelled from the spec: `GetPermissionScope`, the answer of
`getResourceFromClusterRole` as a `PermissionScope`. -/
def getPermissionScope (clusterRole : ClusterRole) (group resource : String)
    (permissionType : PermissionType) : PermissionScope :=
  let (names, all) := getResourceFromClusterRole clusterRole group resource permissionType
  ⟨all, names⟩

@[simp] theorem getPermissionScope_hasGlobalAccess (clusterRole : ClusterRole)
    (group resource : String) (permissionType : PermissionType) :
    (getPermissionScope clusterRole group resource permissionType).hasGlobalAccess =
      (getResourceFromClusterRole clusterRole group resource permissionType).2 := rfl

@[simp] theorem getPermissionScope_specificResources (clusterRole : ClusterRole)
    (group resource : String) (permissionType : PermissionType) :
    (getPermissionScope clusterRole group resource permissionType).specificResources =
      (getResourceFromClusterRole clusterRole group resource permissionType).1 := rfl

/-- Modelled from the spec: `GetViewPermissionScope`. -/
def getViewPermissionScope (clusterRole : ClusterRole) (group resource : String) :
    PermissionScope :=
  getPermissionScope clusterRole group resource .viewPermission

/-- Modelled from the spec: `GetAdminPermissionScope`. -/
def getAdminPermissionScope (clusterRole : ClusterRole) (group resource : String) :
    PermissionScope :=
  getPermissionScope clusterRole group resource .adminPermission

/-- Whether a rule lets a permission type reach one name of a resource: the api
group, the verbs and the resource match, and the rule lists no names or lists
this one.  This is how the RBAC authorizer reads one rule. -/
def ruleAllows (permissionType : PermissionType) (group resource : String) (rule : PolicyRule)
    (resourceName : String) : Bool :=
  apiGroupMatches rule group && hasRequiredVerbs rule permissionType &&
    resourceMatches rule resource &&
    (rule.resourceNames.isEmpty || decide (resourceName ∈ rule.resourceNames))

theorem ruleAllows_view_of_admin {group resource : String} {rule : PolicyRule}
    {resourceName : String} (h : ruleAllows .adminPermission group resource rule resourceName) :
    ruleAllows .viewPermission group resource rule resourceName := by
  simp only [ruleAllows, Bool.and_eq_true] at h ⊢
  exact ⟨⟨⟨h.1.1.1, hasRequiredVerbs_view_of_admin h.1.1.2⟩, h.1.2⟩, h.2⟩

/-! ## What the extractors return -/

/-- `GetViewResourceFromClusterRole` reports all-access iff a rule matching the
group, a view verb and the resource lists no names; the names it returns are
those of the matching rules before the first such rule. -/
theorem getViewResourceFromClusterRole_eq (clusterRole : ClusterRole) (group resource : String) :
    getViewResourceFromClusterRole clusterRole group resource =
      (namesBeforeExit viewVerbsMissing group resource clusterRole.rules,
        clusterRole.rules.any (grantsAll viewVerbsMissing group resource)) := by
  rw [getViewResourceFromClusterRole, resourceNamesLoop_eq, Finset.empty_union]

theorem getResourceFromClusterRole_grants (clusterRole : ClusterRole) (group resource : String)
    (permissionType : PermissionType) (resourceName : String) :
    (getResourceFromClusterRole clusterRole group resource permissionType).2 = true ∨
        resourceName ∈ (getResourceFromClusterRole clusterRole group resource permissionType).1 ↔
      ∃ rule ∈ clusterRole.rules, ruleAllows permissionType group resource rule resourceName := by
  rw [getResourceFromClusterRole, resourceNamesLoop_grants]
  simp [passesChecks, ruleAllows, and_assoc]

theorem canAccessResource_iff_ruleAllows {clusterRole : ClusterRole} {group resource : String}
    {permissionType : PermissionType} {resourceName : String} :
    (getPermissionScope clusterRole group resource permissionType).canAccessResource
        resourceName ↔
      ∃ rule ∈ clusterRole.rules, ruleAllows permissionType group resource rule resourceName := by
  rw [← getResourceFromClusterRole_grants]
  simp [PermissionScope.canAccessResource]

/-- A scope grants a name iff some rule of the role allows it: whatever the
order of the rules, and although the loop stops at the first all-access
rule. -/
theorem canAccessResource_getPermissionScope (clusterRole : ClusterRole)
    (group resource : String) (permissionType : PermissionType) (resourceName : String) :
    (getPermissionScope clusterRole group resource permissionType).canAccessResource
        resourceName =
      clusterRole.rules.any (ruleAllows permissionType group resource · resourceName) := by
  rw [Bool.eq_iff_iff, List.any_eq_true]
  exact canAccessResource_iff_ruleAllows

/-- What the admin scope grants, the view scope grants. -/
theorem admin_canAccessResource_view {clusterRole : ClusterRole} {group resource : String}
    {resourceName : String}
    (h : (getAdminPermissionScope clusterRole group resource).canAccessResource resourceName) :
    (getViewPermissionScope clusterRole group resource).canAccessResource resourceName := by
  obtain ⟨rule, hr, ha⟩ := canAccessResource_iff_ruleAllows.mp h
  exact canAccessResource_iff_ruleAllows.mpr ⟨rule, hr, ruleAllows_view_of_admin ha⟩

/-- A role that lets `update` and `get` reach the cluster set `dev`. -/
def devAdminRole : ClusterRole :=
  ⟨"dev-admin", [⟨["cluster.open-cluster-management.io"], ["managedclustersets"],
    ["update", "get"], ["dev"]⟩]⟩

theorem admin_canAccessResource_view_devAdmin :
    (getAdminPermissionScope devAdminRole "cluster.open-cluster-management.io"
        "managedclustersets").canAccessResource "dev" = true ∧
      (getViewPermissionScope devAdminRole "cluster.open-cluster-management.io"
        "managedclustersets").canAccessResource "dev" = true :=
  ⟨by decide, admin_canAccessResource_view (by decide)⟩

/-- The admin names need not be among the view names: on every group and
resource, a view rule that lists no names ends the view loop before the admin
rule that names `resourceName`. -/
theorem admin_specificResources_not_mem_view (group resource resourceName : String) :
    ∃ clusterRole : ClusterRole,
      resourceName ∈ (getAdminPermissionScope clusterRole group resource).specificResources ∧
        resourceName ∉ (getViewPermissionScope clusterRole group resource).specificResources :=
  ⟨⟨"r", [⟨["*"], ["*"], ["get"], []⟩, ⟨["*"], ["*"], ["update", "get"], [resourceName]⟩]⟩,
    by simp [getAdminPermissionScope, getViewPermissionScope, getResourceFromClusterRole,
      resourceNamesLoop, apiGroupMatches, resourceMatches, hasRequiredVerbs, verbMatches]⟩

end ClusterSetCache

