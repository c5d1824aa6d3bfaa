import InjectionPlan.TypeExpr.Name

/-! # Host frameworks

    The plan is made for an injection framework, the host.  All that is known of
    it are names: of its registry, of its composition root, and of two types that
    are never a contract.
-/

namespace InjectionPlan

/-- The names by which a framework is known. -/
structure Host where
  /-- The framework's own name. -/
  name : String
  /-- The qualified name of the registry that configuration methods take. -/
  registryType : String
  /-- The simple name of the user's composition root, if there can be one. -/
  rootName : Option String
  /-- The interface of a composition root, if there is one. -/
  rootContract : Option String
  /-- The definition name of the equality interface, which is never a contract. -/
  equalityContract : String
  /-- The definition name of the root of all classes, which is never a contract. -/
  rootObject : String
deriving DecidableEq, Repr

namespace Host

/-- The host with an `IServiceCollection` and no composition roots. -/
def microsoft : Host where
  name := "Microsoft.Extensions.DependencyInjection"
  registryType := "Microsoft.Extensions.DependencyInjection.IServiceCollection"
  rootName := none
  rootContract := none
  equalityContract := "System.IEquatable"
  rootObject := "System.Object"

/-- The host whose user-written composition roots are extended. -/
def lightInject : Host where
  name := "LightInject"
  registryType := "LightInject.IServiceRegistry"
  rootName := some "CompositionRoot"
  rootContract := some "LightInject.ICompositionRoot"
  equalityContract := "System.IEquatable"
  rootObject := "System.Object"

/-- Whether the type is the host's registry. -/
def isRegistry (h : Host) (t : TypeExpr) : Bool := t.qualifiedName == h.registryType

/-- Whether the type is the equality interface, with whatever arguments. -/
def isEqualityContract (h : Host) (t : TypeExpr) : Bool := t.definitionName == h.equalityContract

/-- Whether the type is the root of all classes. -/
def isRootObject (h : Host) (t : TypeExpr) : Bool := t.definitionName == h.rootObject

end Host

end InjectionPlan
