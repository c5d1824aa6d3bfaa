import InjectionPlan.Marker.Edit
import InjectionPlan.Settings
import InjectionPlan.Snapshot

/-! # The shop module

    A small module, and settings for it: warnings are on, and the host has composition
    roots.  One of the hooks is broken on purpose.

    The parts that the module is put together from serve other small modules too.
-/

namespace InjectionPlan.Showcase

/-- A declaration to start from: no parameters, no inheritance, no methods, no
markers. -/
def blank (ns name : String) (kind : DeclarationKind) : Declaration where
  ns := ns
  name := name
  kind := kind
  params := []
  base := none
  interfaces := []
  declaredAbstract := false
  isPartial := false
  methods := []
  markers := []
  span := none

/-- A class. -/
def cls (ns name : String) : Declaration := blank ns name .classType

/-- An interface where it is used. -/
def interfaceRef (ns name : String) : TypeHead := ⟨ns, name, .interfaceType⟩

/-- The handler of a message. -/
def handlerOf (message : String) : TypeExpr :=
  .apply (interfaceRef "Shop.Messaging" "IHandler") [.plain ⟨"Shop.Orders", message, .classType⟩]

/-- The repository of orders. -/
def repository : TypeExpr := .plain (interfaceRef "Shop.Orders" "IOrderRepository")

/-- A hook that takes the registry. -/
def hook (name : String) (isStatic : Bool) : Method where
  name := name
  access := .everyone
  isStatic := isStatic
  parameters := [⟨"registry", .plain (interfaceRef "LightInject" "IServiceRegistry")⟩]
  markers := [.bare .registrationExtension]
  span := none

/-- The shop module. -/
def draft : Draft where
  name := "Shop.Core"
  types :=
    [{ cls "Shop" "CompositionRoot" with
        isPartial := true
        interfaces := [.plain (interfaceRef "LightInject" "ICompositionRoot")] },
      blank "Shop.Orders" "IOrderRepository" .interfaceType,
      { cls "Shop.Orders" "SqlOrderRepository" with
        interfaces := [repository]
        markers := [(Marker.bare .register).edits [.lifetime .perScope]] },
      { cls "Shop.Orders" "CachedOrderRepository" with
        interfaces := [repository]
        markers := [.bare .decorate] },
      { cls "Shop" "SystemClock" with
        markers := [(Marker.bare .register).edits [.lifetime .singleton, .serviceName "utc"]] },
      { cls "Shop.Orders" "OrderPlacedHandler" with interfaces := [handlerOf "OrderPlaced"] },
      { cls "Shop.Orders" "OrderShippedHandler" with interfaces := [handlerOf "OrderShipped"] },
      { cls "Shop" "Startup" with methods := [hook "AddLogging" true, hook "AddMetrics" false] }]
  rules :=
    [(Marker.bulkByPosition (.erase (interfaceRef "Shop.Messaging" "IHandler") 1)).edits
      [.positional (.lifetime .transient), .includeServiceName]]

/-- The settings of the showcase. -/
def settings : Settings := ⟨.lightInject, true, true⟩

end InjectionPlan.Showcase
