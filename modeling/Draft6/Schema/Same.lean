import Draft6.Schema.Fold

/-!
# Equality of schemas

Two schemas are the same when their keywords are. The order of named schemas does not count, but
that of patterns does, and so does the order in a list. Values inside schemas are compared as
documents.
-/

namespace Draft6

variable {σ τ : Type}

/-- Equality of optional things. -/
def sameOption (same : σ → τ → Bool) : Option σ → Option τ → Bool
  | none, none => true
  | some a, some b => same a b
  | _, _ => false

/-- Equality of lists. -/
def sameList (same : σ → τ → Bool) : List σ → List τ → Bool
  | [], [] => true
  | a :: as, b :: bs => same a b && sameList same as bs
  | _, _ => false

/-- Equality of named things, whose order does not count. -/
def sameNamed (same : σ → τ → Bool) (as : List (String × σ)) (bs : List (String × τ)) : Bool :=
  as.length = bs.length && as.all fun (name, a) => (bs.lookup name).any (same a)

/-- Equality of annotations. -/
def Annotations.same (a b : Annotations) : Bool :=
  a.dialect = b.dialect && a.title = b.title && a.description = b.description
    && sameOption Json.same a.default b.default
    && sameOption (sameList Json.same) a.examples b.examples
    && a.format = b.format

/-- Equality of rules for numbers. -/
def NumberRules.same (a b : NumberRules) : Bool :=
  sameOption (fun x y => x.compare y = .eq) a.multipleOf b.multipleOf
    && sameOption Number.same a.maximum b.maximum
    && sameOption Number.same a.exclusiveMaximum b.exclusiveMaximum
    && sameOption Number.same a.minimum b.minimum
    && sameOption Number.same a.exclusiveMinimum b.exclusiveMinimum

/-- Equality of schemas for elements. -/
def Items.same (same : σ → τ → Bool) : Items σ → Items τ → Bool
  | .all a, .all b => same a b
  | .each as, .each bs => sameList same as bs
  | _, _ => false

/-- Equality of dependencies. -/
def Dependency.same (same : σ → τ → Bool) : Dependency σ → Dependency τ → Bool
  | .names a, .names b => a = b
  | .schema a, .schema b => same a b
  | _, _ => false

/-- Equality of schema objects, given equality of sub-schemas. -/
def ObjectSchema.same (same : σ → τ → Bool) (o : ObjectSchema σ) (p : ObjectSchema τ) : Bool :=
  o.id = p.id && o.ref = p.ref && o.annotations.same p.annotations && o.type = p.type
    && sameOption (sameList Json.same) o.enum p.enum
    && sameOption Json.same o.const p.const
    && o.numbers.same p.numbers && o.strings = p.strings && o.arrays = p.arrays
    && o.objects = p.objects
    && sameOption (Items.same same) o.items p.items
    && sameOption same o.additionalItems p.additionalItems
    && sameOption same o.contains p.contains
    && sameOption (sameNamed same) o.properties p.properties
    && sameOption (sameList fun a b => a.1 = b.1 && same a.2 b.2)
      o.patternProperties p.patternProperties
    && sameOption same o.additionalProperties p.additionalProperties
    && sameOption (sameNamed (Dependency.same same)) o.dependencies p.dependencies
    && sameOption same o.propertyNames p.propertyNames
    && sameOption (sameList same) o.allOf p.allOf
    && sameOption (sameList same) o.anyOf p.anyOf
    && sameOption (sameList same) o.oneOf p.oneOf
    && sameOption same o.not p.not
    && sameOption (sameNamed same) o.definitions p.definitions
    && sameNamed same o.extra p.extra

/-- Equality of schemas. -/
def Schema.same : Schema → Schema → Bool :=
  fold
    (fun value t => match t with
      | .boolean other => value = other
      | .object _ => false)
    (fun o t => match t with
      | .boolean _ => false
      | .object p => o.same (fun a b => a.2 b) p)

end Draft6
