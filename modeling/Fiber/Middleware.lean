import Fiber.Value

/-! The middleware package: `Compress`, its options and its handler, and `Helmet`. -/
namespace Fiber.Middleware

/-- `CompressConfig`. `Next` skips the middleware for a request on which it returns true;
`none` is a nil `Next`. -/
structure CompressConfig (F : Type) where
  next : Option F
  level : Int
  deriving DecidableEq

def compressLevelDefault : Int := 0

/-- The brotli and gzip levels that `CompressWithConfig` hands to
`fasthttp.CompressHandlerBrotliLevel`, named by the fasthttp constants they stand for. -/
inductive Compression where
  | noCompression
  | bestSpeed
  | bestCompression
  | default
  deriving DecidableEq

/-- What a handler does with the request context: `c.Next()`, `compress(c.Fasthttp)` at a
level, or `fmt.Println(line)`. -/
inductive Action where
  | next
  | compress (level : Compression)
  | println (line : String)
  deriving DecidableEq

variable {F : Type}

/-- The value the package variable `CompressConfigDefault` starts with. -/
def compressConfigDefault : CompressConfig F := { next := none, level := compressLevelDefault }

def compressCase : Value F → Option (CompressConfig F → CompressConfig F)
  | .predicate opt => some fun config => { config with next := opt }
  | .int opt => some fun config => { config with level := opt }
  | _ => none

def compression (level : Int) : Compression :=
  if level = -1 then .noCompression
  else if level = 1 then .bestSpeed
  else if level = 2 then .bestCompression
  else .default

/-- The handler `CompressWithConfig` returns, run on a request on whose context each
function `f` of the config returns `holds f`. -/
def compressWithConfig (config : CompressConfig F) (holds : F → Bool) : List Action :=
  match config.next with
  | some next => if holds next then [.next] else [.next, .compress (compression config.level)]
  | none => [.next, .compress (compression config.level)]

/-- `Compress(options...)`, called while `CompressConfigDefault` holds `default`. -/
def compress (default : CompressConfig F) (options : List (Value F)) :
    Except String ((F → Bool) → List Action) := do
  let config ← if options.length > 0 then
      typeSwitch compressCase (fun _ => "Compress: the following option types are allowed: int")
        default options
    else pure default
  pure (compressWithConfig config)

def helmet : List Action :=
  [.println "Helmet is still under development, this middleware does nothing yet.", .next]

theorem compressCase_isNone (a : Value F) :
    (compressCase a).isNone = (a.asPredicate.isNone && a.asInt.isNone) := by
  cases a <;> rfl

/-- Over any options the loop keeps the last `Next`, nil or not, and the last level. -/
theorem compressCase_foldl (options : List (Value F)) (config : CompressConfig F) :
    options.foldl (fun config a => (compressCase a).getD id config) config =
      ⟨(options.filterMap Value.asPredicate).getLast?.getD config.next,
        (options.filterMap Value.asInt).getLast?.getD config.level⟩ := by
  induction options generalizing config with
  | nil => rfl
  | cons a options ih =>
    rw [List.foldl_cons, ih]
    cases a <;> simp [compressCase, Value.asPredicate, Value.asInt, List.getLast?_cons]

theorem compress_eq (default : CompressConfig F) (options : List (Value F)) :
    compress default options =
      match options.find? (fun a => a.asPredicate.isNone && a.asInt.isNone) with
      | some _ => .error "Compress: the following option types are allowed: int"
      | none => .ok (compressWithConfig
          ⟨(options.filterMap Value.asPredicate).getLast?.getD default.next,
            (options.filterMap Value.asInt).getLast?.getD default.level⟩) := by
  cases options with
  | nil => rfl
  | cons a options =>
    simp only [compress, List.length_cons, Nat.zero_lt_succ, if_true, typeSwitch_eq,
      compressCase_isNone, compressCase_foldl]
    cases (a :: options).find? (fun a => a.asPredicate.isNone && a.asInt.isNone) <;> rfl

theorem compressWithConfig_eq (config : CompressConfig F) (holds : F → Bool) :
    compressWithConfig config holds =
      if config.next.any holds then [.next]
      else [.next, .compress (compression config.level)] := by
  unfold compressWithConfig
  cases config.next <;> rfl

/-- `Compress` takes its options in any order, on whatever `CompressConfigDefault` holds at
the call. If each is a `func(*fiber.Ctx) bool` or an int, its handler lets through, with
`c.Next()` alone, exactly the requests on which the last such func returns true, unless that
func is nil (with none, the default's `Next` decides); on every other request it calls
`c.Next()` and then compresses at the last int's level, or the default's. An option of
another type is fatal. -/
theorem compress_options (default : CompressConfig F) (options : List (Value F)) :
    ((∀ a ∈ options, a.asPredicate.isSome ∨ a.asInt.isSome) →
      ∃ handler, compress default options = .ok handler ∧ ∀ holds,
        handler holds =
          if ((options.filterMap Value.asPredicate).getLast?.getD default.next).any holds then
            [.next]
          else
            [.next, .compress
              (compression ((options.filterMap Value.asInt).getLast?.getD default.level))]) ∧
    ((∃ a ∈ options, a.asPredicate = none ∧ a.asInt = none) →
      compress default options =
        .error "Compress: the following option types are allowed: int") := by
  rw [compress_eq]
  cases hf : options.find? (fun a => a.asPredicate.isNone && a.asInt.isNone) with
  | none =>
    refine ⟨fun _ => ⟨_, rfl, compressWithConfig_eq _⟩, ?_⟩
    rintro ⟨a, ha, hp, hi⟩
    simpa [hp, hi] using find?_rejected_none hf a ha
  | some a =>
    obtain ⟨ha, hp, hi⟩ := find?_rejected_some hf
    refine ⟨fun hvalid => ?_, fun _ => rfl⟩
    simpa [hp, hi] using hvalid a ha

example : (compress (compressConfigDefault : CompressConfig Nat)
      [.predicate (some 1), .int 2, .predicate none]).map (fun handler => handler fun _ => true) =
    .ok [.next, .compress .bestCompression] := rfl

end Fiber.Middleware
