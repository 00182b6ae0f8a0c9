import RouteAtlas.Proofs.Table
import RouteAtlas.Route.Decoding

/-!
# Reading records back

A record that came from outside is decoded leniently: integers may be truth values, numbers
without a fraction or texts, truth values may be words, and most parts may be left out. What such
a record is written as has none of this freedom left, and decoding it again gives the record back.

`ReadsBack decode write` says this of a decoder and the way its results are written; texts,
integers, optional parts and lists have a law each, and so have parameters, responses and
middlewares. A route differs in one point: an empty list of responses is replaced, so
`Route.decode_toValue` asks for a response, and `Route.responses_ne_nil_of_decode` shows that every
route that was decoded has one. The two meet in `Route.decode_toValue_of_decode`.
-/

namespace RouteAtlas

/-! ### Outcomes that fit -/

namespace Decoded

variable {α β : Type}

theorem map_eq_fits_iff {f : α → β} {x : Decoded α} {b : β} :
    f <$> x = .fits b ↔ ∃ a, x = .fits a ∧ f a = b := by
  cases x <;> simp [Functor.map, apply]

theorem seq_eq_fits_iff {f : Decoded (α → β)} {x : Decoded α} {b : β} :
    f <*> x = .fits b ↔ ∃ g a, f = .fits g ∧ x = .fits a ∧ g a = b := by
  cases f with
  | fits g => cases x <;> simp [Seq.seq, apply]
  | refused cs => simp [Seq.seq, apply]

@[simp]
theorem map_fits (f : α → β) (a : α) : f <$> (.fits a : Decoded α) = .fits (f a) := rfl

@[simp]
theorem fits_seq (f : α → β) (a : α) : (.fits f : Decoded (α → β)) <*> .fits a = .fits (f a) := rfl

@[simp]
theorem within_fits (name : String) (a : α) : (Decoded.fits a).within name = .fits a := rfl

theorem within_eq_fits_iff {name : String} {x : Decoded α} {a : α} :
    x.within name = .fits a ↔ x = .fits a := by
  cases x <;> simp [within]

end Decoded

namespace Decode

variable {α : Type} {decode : Value → Decoded α} {write : α → Value}

/-! ### Parts -/

/-- What is written can be decoded, and gives back what was written. -/
def ReadsBack (decode : Value → Decoded α) (write : α → Value) : Prop :=
  ∀ a, decode (write a) = .fits a

theorem readsBack_text : ReadsBack text .text := fun _ => rfl

theorem readsBack_integer : ReadsBack integer .int := fun _ => rfl

/-- A part that may be absent is written as `null` where it is; the other values are read back as
long as none of them is written as `null`. -/
theorem ReadsBack.optional (h : ReadsBack decode write) (hnull : ∀ a, write a ≠ .null) :
    ReadsBack (Decode.optional decode) fun a? => (a?.map write).getD .null := by
  intro a?
  cases a? with
  | none => rfl
  | some a =>
    have hread : Decode.optional decode (write a) = some <$> decode (write a) := by
      unfold Decode.optional
      split
      · next heq => exact absurd heq (hnull a)
      · rfl
    exact hread.trans (by rw [h a, Decoded.map_fits])

/-- The number given to the first item does not matter where every item is read back. -/
theorem ReadsBack.items (h : ReadsBack decode write) (as : List α) (i : Nat) :
    Decode.items decode i (as.map write) = .fits as := by
  induction as generalizing i with
  | nil => rfl
  | cons a as ih =>
    rw [List.map_cons, Decode.items, h a, ih (i + 1), Decoded.within_fits, Decoded.map_fits,
      Decoded.fits_seq]

theorem ReadsBack.list (h : ReadsBack decode write) :
    ReadsBack (Decode.list decode) fun as => .list (as.map write) :=
  fun as => h.items as 0

/-- The default of a member that is written is not used. -/
theorem ReadsBack.fieldD (h : ReadsBack decode write) {ms : Members} {name : String} {a : α}
    (hfind : Members.find? ms name = some (write a)) (default : α) :
    Decode.fieldD ms name default decode = .fits a := by
  rw [Decode.fieldD, hfind]
  exact (congrArg (Decoded.within name) (h a)).trans (Decoded.within_fits name a)

/-- A list that was decoded has as many items as the data. -/
theorem length_eq_of_items {vs : List Value} {as : List α} {i : Nat}
    (h : Decode.items decode i vs = .fits as) : as.length = vs.length := by
  induction vs generalizing i as with
  | nil =>
    cases h
    rfl
  | cons v vs ih =>
    rw [Decode.items, Decoded.seq_eq_fits_iff] at h
    obtain ⟨_, rest, hfirst, hrest, rfl⟩ := h
    obtain ⟨a, -, rfl⟩ := Decoded.map_eq_fits_iff.1 hfirst
    rw [List.length_cons, List.length_cons, ih hrest]

end Decode

/-! ### Records -/

theorem Parameter.readsBack : Decode.ReadsBack Parameter.decode Parameter.toValue := fun _ => rfl

theorem Middleware.readsBack : Decode.ReadsBack Middleware.decode Middleware.toValue :=
  fun _ => rfl

theorem Response.readsBack : Decode.ReadsBack Response.decode Response.toValue := by
  intro r
  rcases r with ⟨statusCode, description, contentType, _ | ms⟩ <;> rfl

/-- A list of responses that is not empty is not replaced. -/
theorem Response.decodeAll_of_find? {ms : Members} {responses : List Response}
    (hfind : Members.find? ms "responses" = some (.list (responses.map Response.toValue)))
    (h : responses ≠ []) : Response.decodeAll ms = .fits responses := by
  have htruthy : (Value.list (responses.map Response.toValue)).truthy = true := by
    simp [Value.truthy, h]
  have hread : Decode.list Response.decode (.list (responses.map Response.toValue)) =
      .fits responses := Response.readsBack.list responses
  simp only [Response.decodeAll, hfind, htruthy, if_true, hread, Decoded.within_fits]

/-- Whatever the data says about responses, there is one in the end. -/
theorem Response.ne_nil_of_decodeAll {ms : Members} {responses : List Response}
    (h : Response.decodeAll ms = .fits responses) : responses ≠ [] := by
  rw [Response.decodeAll] at h
  split at h
  · cases h
    exact List.cons_ne_nil _ _
  · next v _ =>
    split at h
    · next htruthy =>
      rw [Decoded.within_eq_fits_iff] at h
      cases v with
      | list vs =>
        -- a list that counts as true has an item
        have hlength : responses.length = vs.length := Decode.length_eq_of_items h
        have hpos : 0 < vs.length := List.length_pos_iff.2 (by simpa [Value.truthy] using htruthy)
        exact List.length_pos_iff.1 (hlength ▸ hpos)
      | _ => cases h
    · cases h
      exact List.cons_ne_nil _ _

/-- A route comes out of its parts, which are decoded independently of each other. -/
theorem Route.decode_map_eq_fits_iff {ms : Members} {r : Route} :
    Route.decode (.map ms) = .fits r ↔
      Decode.field ms "method" Decode.text = .fits r.method ∧
      Decode.field ms "path" Decode.text = .fits r.path ∧
      Decode.field ms "handler" Decode.text = .fits r.handler ∧
      Decode.fieldD ms "description" none (Decode.optional Decode.text) = .fits r.description ∧
      Decode.fieldD ms "parameters" [] (Decode.list Parameter.decode) = .fits r.parameters ∧
      Response.decodeAll ms = .fits r.responses ∧
      Decode.fieldD ms "middlewares" [] (Decode.list Middleware.decode) = .fits r.middlewares ∧
      Decode.fieldD ms "file_path" "" Decode.text = .fits r.filePath ∧
      Decode.fieldD ms "line_number" none (Decode.optional Decode.integer) =
        .fits r.lineNumber := by
  simp only [Route.decode, Decode.record, Decoded.seq_eq_fits_iff, Decoded.map_eq_fits_iff]
  constructor
  · rintro ⟨_, lineNumber, ⟨_, filePath, ⟨_, middlewares, ⟨_, responses, ⟨_, parameters,
      ⟨_, description, ⟨_, handler, ⟨_, path, ⟨method, hmethod, rfl⟩, hpath, rfl⟩, hhandler, rfl⟩,
      hdescription, rfl⟩, hparameters, rfl⟩, hresponses, rfl⟩, hmiddlewares, rfl⟩, hfile, rfl⟩,
      hline, rfl⟩
    exact ⟨hmethod, hpath, hhandler, hdescription, hparameters, hresponses, hmiddlewares, hfile,
      hline⟩
  · rintro ⟨hmethod, hpath, hhandler, hdescription, hparameters, hresponses, hmiddlewares, hfile,
      hline⟩
    exact ⟨_, _, ⟨_, _, ⟨_, _, ⟨_, _, ⟨_, _, ⟨_, _, ⟨_, _, ⟨_, _, ⟨_, hmethod, rfl⟩, hpath, rfl⟩,
      hhandler, rfl⟩, hdescription, rfl⟩, hparameters, rfl⟩, hresponses, rfl⟩, hmiddlewares, rfl⟩,
      hfile, rfl⟩, hline, rfl⟩

/-- What a route with a response is written as can be decoded, and gives the route back. -/
theorem Route.decode_toValue {r : Route} (h : r.responses ≠ []) :
    Route.decode r.toValue = .fits r := by
  have hdescription := Decode.readsBack_text.optional (fun _ => nofun)
  have hline := Decode.readsBack_integer.optional (fun _ => nofun)
  refine Route.decode_map_eq_fits_iff.2 ⟨rfl, rfl, rfl, hdescription.fieldD ?_ none,
    Parameter.readsBack.list.fieldD rfl [], Response.decodeAll_of_find? rfl h,
    Middleware.readsBack.list.fieldD rfl [], rfl, hline.fieldD ?_ none⟩
  · cases r.description <;> rfl
  · cases r.lineNumber <;> rfl

/-- Every route that was decoded has a response. -/
theorem Route.responses_ne_nil_of_decode {v : Value} {r : Route}
    (h : Route.decode v = .fits r) : r.responses ≠ [] := by
  cases v with
  | map ms =>
    obtain ⟨-, -, -, -, -, hresponses, -⟩ := Route.decode_map_eq_fits_iff.1 h
    exact Response.ne_nil_of_decodeAll hresponses
  | _ => cases h

/-- Decoding is stable: the route that comes out has a response, and what it is written as is
decoded to the same route. -/
theorem Route.decode_toValue_of_decode {v : Value} {r : Route} (h : Route.decode v = .fits r) :
    r.responses ≠ [] ∧ Route.decode r.toValue = .fits r :=
  have hresponses := Route.responses_ne_nil_of_decode h
  ⟨hresponses, Route.decode_toValue hresponses⟩

/-- A route as a careless client may send it: numbers as texts, truth values as words and numbers,
a truth value as a number, and parts left out. -/
def Route.careless : Value :=
  .object [("method", .text "GET"), ("path", .text "/users"), ("handler", .text "list"),
    ("parameters", .list [
      .object [("name", .text "page"), ("location", .text "query"), ("required", .text "Off")],
      .object [("required", .int 1), ("location", .text "path"), ("name", .text "id")]]),
    ("responses", .list [
      .object [("status_code", .text " +2_01.0 "), ("description", .text "Created")],
      .object [("status_code", .bool true), ("description", .text ""), ("json_schema", .null)]]),
    ("line_number", .text "-7")]

theorem Route.decode_toValue_of_decode_careless :
    ∃ r, Route.decode Route.careless = .fits r ∧
      r.parameters = [⟨"page", "query", false, "string", ""⟩, ⟨"id", "path", true, "string", ""⟩] ∧
      r.responses.map (·.statusCode) = [201, 1] ∧ r.lineNumber = some (-7) ∧
      r.responses ≠ [] ∧ Route.decode r.toValue = .fits r := by
  have h : Route.decode Route.careless =
      .fits ⟨"GET", "/users", "list", none,
        [⟨"page", "query", false, "string", ""⟩, ⟨"id", "path", true, "string", ""⟩],
        [⟨201, "Created", "application/json", none⟩, ⟨1, "", "application/json", none⟩],
        [], "", some (-7)⟩ := rfl
  exact ⟨_, h, rfl, rfl, rfl, Route.decode_toValue_of_decode h⟩

end RouteAtlas
