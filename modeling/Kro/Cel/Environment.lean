import Mathlib.Data.List.Basic

namespace Kro

namespace Cel

-- The arguments `DefaultEnvironment` hands to `cel.NewEnv`: the two extension libraries, a
-- variable of type `any`, or an option of the CEL library given by the caller (`α`).
inductive Declaration (α : Type) where
  | lists
  | strings
  | anyVariable (name : String)
  | custom (option : α)
  deriving Repr, DecidableEq

structure envOptions (α : Type) where
  resourceIDs : List String
  customDeclarations : List α

-- An option rewrites the options record in place.
def EnvOption (α : Type) : Type := envOptions α → envOptions α

def WithResourceIDs {α : Type} (ids : List String) : EnvOption α :=
  fun opts => { opts with resourceIDs := opts.resourceIDs ++ ids }

def WithCustomDeclarations {α : Type} (declarations : List α) : EnvOption α :=
  fun opts => { opts with customDeclarations := opts.customDeclarations ++ declarations }

-- The loop of DefaultEnvironment over its options.
def applyOptions {α : Type} (opts : envOptions α) (options : List (EnvOption α)) : envOptions α :=
  options.foldl (fun opts opt => opt opts) opts

-- `cel.NewEnv` is not modelled: `newEnv` stands for it, and `DefaultEnvironment` is what it
-- is called with.
def DefaultEnvironment {α β : Type} (newEnv : List (Declaration α) → β) (options : List (EnvOption α)) : β :=
  let opts := applyOptions ⟨[], []⟩ options
  let declarations := [Declaration.lists, .strings]
  newEnv (opts.resourceIDs.foldl (fun declarations name => declarations ++ [.anyVariable name]) declarations)

variable {α β : Type}

@[simp] theorem applyOptions_nil (opts : envOptions α) : applyOptions opts [] = opts := rfl

@[simp] theorem applyOptions_cons (opts : envOptions α) (opt : EnvOption α) (options : List (EnvOption α)) :
    applyOptions opts (opt :: options) = applyOptions (opt opts) options := rfl

theorem foldl_anyVariable (names : List String) (declarations : List (Declaration α)) :
    names.foldl (fun declarations name => declarations ++ [.anyVariable name]) declarations =
      declarations ++ names.map .anyVariable := by
  induction names generalizing declarations with
  | nil => simp
  | cons name names ih => simp [ih]

theorem DefaultEnvironment_eq (newEnv : List (Declaration α) → β) (options : List (EnvOption α)) :
    DefaultEnvironment newEnv options =
      newEnv (.lists :: .strings :: (applyOptions ⟨[], []⟩ options).resourceIDs.map .anyVariable) := by
  simp only [DefaultEnvironment, foldl_anyVariable]
  rfl

-- The options the package defines, as the caller writes them: resource IDs or custom
-- declarations.
def envOption : List String ⊕ List α → EnvOption α :=
  Sum.elim WithResourceIDs WithCustomDeclarations

theorem applyOptions_resourceIDs (opts : envOptions α) :
    ∀ os : List (List String ⊕ List α),
      (applyOptions opts (os.map envOption)).resourceIDs = opts.resourceIDs ++ (os.filterMap Sum.getLeft?).flatten
  | [] => by simp
  | o :: os => by
    rw [List.map_cons, applyOptions_cons, applyOptions_resourceIDs _ os]
    cases o <;> simp [envOption, WithResourceIDs, WithCustomDeclarations]

-- The environment declares the two extension libraries and one `any` variable per resource ID,
-- in the order of the options; custom declarations never reach `cel.NewEnv`.
theorem DefaultEnvironment_envOptions (newEnv : List (Declaration α) → β)
    (os : List (List String ⊕ List α)) :
    DefaultEnvironment newEnv (os.map envOption) =
      newEnv (.lists :: .strings :: (os.filterMap Sum.getLeft?).flatten.map .anyVariable) := by
  rw [DefaultEnvironment_eq, applyOptions_resourceIDs]
  rfl

end Cel

end Kro
