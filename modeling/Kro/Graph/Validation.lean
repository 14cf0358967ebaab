import Kro.Parser.Document

namespace Kro

def errNamingConvention : String := "naming convention violation"

-- `^[f][a-zA-Z0-9]*$` for a class `f` of first runes.
def camelCaseMatch (first : Char → Bool) (s : String) : Bool :=
  match s.toList with
  | c :: cs => first c && cs.all Char.isAlphanum
  | []      => false

-- `^[a-z][a-zA-Z0-9]*$`
def lowerCamelCaseRegex.matchString (s : String) : Bool := camelCaseMatch Char.isLower s

-- `^[A-Z][a-zA-Z0-9]*$`
def upperCamelCaseRegex.matchString (s : String) : Bool := camelCaseMatch Char.isUpper s

-- A nonempty run of digits that ends the text: `\d+$`.
def digitsToEnd (cs : List Char) : Bool :=
  !cs.isEmpty && cs.all Char.isDigit

-- `^v\d+(?:(?:alpha|beta)\d+)?$`. The leading digit run is maximal, since the optional
-- group starts with a letter.
def kubernetesVersionRegex.matchString (s : String) : Bool :=
  match s.toList with
  | 'v' :: cs =>
    let (ds, rest) := cs.span Char.isDigit
    !ds.isEmpty && (rest.isEmpty ||
      ["alpha", "beta"].any fun w => w.toList.isPrefixOf rest && digitsToEnd (rest.drop w.length))
  | _ => false

def reservedKeyWords : List String :=
  ["apiVersion", "context", "dependency", "dependencies", "externalRef", "externalReference",
   "externalRefs", "externalReferences", "graph", "instance", "kind", "metadata", "namespace",
   "object", "resource", "resourcegroup", "resources", "runtime", "serviceAccountName", "spec",
   "status", "kro", "variables", "vars", "version"]

def isValidResourceID (id : String) : Bool :=
  lowerCamelCaseRegex.matchString id

def isValidKindName (name : String) : Bool :=
  upperCamelCaseRegex.matchString name

def isKROReservedWord (word : String) : Bool :=
  reservedKeyWords.contains word

-- `v1alpha1.ResourceGroup`, with the fields the validation reads.
structure Resource where
  id : String
  deriving Repr, DecidableEq

structure ResourceGroupSchema where
  kind : String
  deriving Repr, DecidableEq

structure ResourceGroupSpec where
  schema : ResourceGroupSchema
  resources : List Resource
  deriving Repr, DecidableEq

structure ResourceGroup where
  spec : ResourceGroupSpec
  deriving Repr, DecidableEq

-- The loop of validateResourceIDs; `seen` holds the IDs of the resources already checked.
def validateResourceIDs.loop (seen : List String) : List Resource → Except String Unit
  | [] => .ok ()
  | res :: resources =>
    if isKROReservedWord res.id then .error ("id " ++ res.id ++ " is a reserved keyword in KRO")
    else if !isValidResourceID res.id then
      .error ("id " ++ res.id ++ " is not a valid KRO resource id: must be lower camelCase")
    else if seen.contains res.id then .error ("found duplicate resource IDs " ++ res.id)
    else loop (res.id :: seen) resources

def validateResourceIDs (rg : ResourceGroup) : Except String Unit :=
  validateResourceIDs.loop [] rg.spec.resources

def validateResourceGroupNamingConventions (rg : ResourceGroup) : Except String Unit :=
  if !isValidKindName rg.spec.schema.kind then
    .error (errNamingConvention ++ ": kind \x27" ++ rg.spec.schema.kind ++
      "\x27 is not a valid KRO kind name: must be UpperCamelCase")
  else (validateResourceIDs rg).mapError (errNamingConvention ++ ": " ++ ·)

def validateKubernetesVersion (version : String) : Except String Unit :=
  if !kubernetesVersionRegex.matchString version then
    .error ("version " ++ version ++ " is not a valid Kubernetes version")
  else .ok ()

structure GroupVersion where
  group : String
  version : String
  deriving Repr, DecidableEq

-- `schema.ParseGroupVersion` of apimachinery: by the number of slashes, a version alone or a
-- group and a version split at the slash.
def parseGroupVersion (gv : String) : Except String GroupVersion :=
  if gv = "" || gv = "/" then .ok ⟨"", ""⟩
  else
    match gv.toList.count '/' with
    | 0 => .ok ⟨"", gv⟩
    | 1 =>
      let (group, version) := gv.toList.span (· != '/')
      .ok ⟨String.mk group, String.mk (version.drop 1)⟩
    | _ => .error ("unexpected GroupVersion string: " ++ gv)

-- validateKubernetesObjectStructure up to the end of its apiVersion checks.
def validateKubernetesObjectStructure.apiVersion (obj : List (String × Value)) : Except String Unit := do
  let some apiVersion := obj.lookup "apiVersion" | throw "apiVersion field not found"
  let .string apiVersion := apiVersion | throw "apiVersion field is not a string"
  let groupVersion ← (parseGroupVersion apiVersion).mapError
    ("apiVersion field is not a valid Kubernetes group version: " ++ ·)
  if groupVersion.version != "" then
    (validateKubernetesVersion groupVersion.version).mapError
      ("apiVersion field does not have a valid version: " ++ ·)

def validateKubernetesObjectStructure (obj : List (String × Value)) : Except String Unit := do
  validateKubernetesObjectStructure.apiVersion obj
  let some kind := obj.lookup "kind" | throw "kind field not found"
  let .string _ := kind | throw "kind field is not a string"
  let some metadata := obj.lookup "metadata" | throw "metadata field not found"
  let .object _ := metadata | throw "metadata field is not a map"

end Kro
