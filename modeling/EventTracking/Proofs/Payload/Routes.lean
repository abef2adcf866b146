import EventTracking.Proofs.Payload.Encodings

/-!
This module contains the theorem that the way in which entities come to a build leaves no trace in its
contexts document: in the text of an earlier build, in waiting contexts documents or one by one, the text
of the document is the same.
-/

namespace EventTracking

namespace Processing

variable {encode : Bool} {c : Carried} {vs ws : List Value}

def contextsText (encode : Bool) (vs : List Value) : String := textOf encode (.object (wrap vs))

/-! ### Documents of entities -/

theorem extend_wrap (vs ws : List Value) : extend (wrap vs) (wrap ws) = wrap (vs ++ ws) := by
  rw [extend, documentEntities_wrap, documentEntities_wrap]
  simp [wrap, Value.setEntry, Value.isKey]

theorem normalize_wrap (vs : List Value) : normalize (wrap vs) = wrap vs := by
  rw [normalize, documentEntities_wrap]
  simp [wrap, Value.field?, Value.isKey]

theorem foldl_extend_wrap (pieces : List (List Value)) (vs : List Value) :
    (pieces.map wrap).foldl extend (wrap vs) = wrap (vs ++ pieces.flatten) := by
  induction pieces generalizing vs with
  | nil => simp
  | cons piece pieces ih =>
    rw [List.map_cons, List.foldl_cons, extend_wrap, ih, List.flatten_cons, List.append_assoc]

def Carried.Holds (c : Carried) (vs : List Value) : Prop :=
  c = .document (wrap vs) ∨ c = .nothing ∧ vs = []

theorem merged_wrap (h : c.Holds vs) (piece : List Value) (pieces : List (List Value)) :
    merged c ((piece :: pieces).map wrap) = some (wrap (vs ++ (piece :: pieces).flatten)) := by
  rw [List.map_cons, merged, List.flatten_cons, ← List.append_assoc, ← foldl_extend_wrap]
  rcases h with rfl | ⟨rfl, rfl⟩
  . rw [base, extend_wrap]
  . rw [base, normalize_wrap, List.nil_append]

/-! ### Texts of entities -/

theorem isPlain_wrap (h : ∀ v ∈ vs, v.isPlain = true) : (Value.object (wrap vs)).isPlain = true := by
  have hvs : Value.arePlain vs = true := by
    induction vs with
    | nil => rfl
    | cons v vs ih =>
      obtain ⟨hv, hvs⟩ := List.forall_mem_cons.1 h
      rw [Value.arePlain, hv, ih hvs]
      rfl
  have hkeys : decide (Pairs.ofEntries (wrap vs)).keys.Nodup = true := by
    simp [wrap, Pairs.ofEntries, Pairs.keys, Value.text?]
  rw [Value.isPlain, hkeys]
  simp [wrap, Value.arePlainEntries, Value.isPlain, Value.text?, hvs]

theorem ofItems_listed_append (vs ws : List Value) :
    Json.ofItems (fun _ => none) (Value.listedItems vs ++ ws)
      =
    Json.ofItems (fun _ => none) (vs ++ ws) := by
  induction vs with
  | nil => rfl
  | cons v vs ih =>
    rw [Value.listedItems, List.cons_append, List.cons_append, Json.ofItems, Json.ofItems,
      Json.ofValue_listed, ih]

theorem contextsText_listed_append (encode : Bool) (vs ws : List Value) :
    contextsText encode (Value.listedItems vs ++ ws) = contextsText encode (vs ++ ws) := by
  unfold contextsText textOf payloadText
  have hdata : Json.ofData (.object (wrap (Value.listedItems vs ++ ws)))
      = Json.ofData (.object (wrap (vs ++ ws))) := by
    simp only [Json.ofData, wrap, Json.ofValue, Json.ofEntries, ofItems_listed_append]
  rw [hdata]

theorem carried_contextsText {pairs : Pairs} (hplain : ∀ v ∈ vs, v.isPlain = true)
    (h : ∀ v ∈ vs, v.IsSerializable)
    (hget : pairs.get? (contextsKey encode) = some (.str (contextsText encode vs))) :
    carried encode pairs = .document (wrap (Value.listedItems vs)) := by
  have hserializable := Value.isSerializable_object.2 (areSerializable_wrap h)
  rw [carried_of_text hget, contextsText, textValue?_textOf (isPlain_wrap hplain) hserializable]
  rfl

end Processing

namespace Builder

open Processing

variable {σ : Type} {encode : Bool} {b : Builder} {first last : List Value}
  {middle : List (List Value)}

def fresh (encode : Bool) (vs : List Value) : Builder where
  pairs := []
  deferred := []
  entities := vs
  processor := some (.standard encode)
  built := none

theorem hasDocuments_fresh (encode : Bool) {vs : List Value} (h : ∀ v ∈ vs, v.IsSerializable) :
    HasDocuments (fresh encode vs) :=
  ⟨by simp [fresh], h⟩

theorem isBuildable_fresh (encode : Bool) {vs : List Value} (h : ∀ v ∈ vs, v.IsSerializable) :
    IsBuildable encode (fresh encode vs) :=
  (hasDocuments_fresh encode h).isBuildable nofun

theorem leavesContexts_fresh (encode : Bool) (vs : List Value) :
    LeavesContexts (fresh encode vs).deferred := by
  simp [LeavesContexts, fresh]

theorem contextsDocuments_pending_wrap (hmiddle : contextsDocuments b.deferred = middle.map wrap) :
    contextsDocuments (pending b)
      =
    (middle ++ if b.entities.isEmpty then [] else [b.entities]).map wrap := by
  rw [contextsDocuments_pending, hmiddle, List.map_append]
  split <;> rfl

theorem get?_contextsKey_pieces {vs : List Value} {pieces : List (List Value)}
    (hds : LeavesContexts b.deferred) (hcarried : (carried encode b.pairs).Holds vs)
    (hpieces : contextsDocuments (pending b) = pieces.map wrap) (hsome : pieces ≠ []) :
    (b.standardPayload encode).get? (contextsKey encode)
      =
    some (.str (contextsText encode (vs ++ pieces.flatten))) := by
  rw [get?_contextsKey_of_leavesContexts encode hds, hpieces]
  cases pieces with
  | nil => exact absurd rfl hsome
  | cons piece pieces =>
    rw [merged_wrap hcarried]
    rfl

theorem get?_contextsKey_fresh (encode : Bool) {vs : List Value} (hvs : vs ≠ []) :
    ((fresh encode vs).standardPayload encode).get? (contextsKey encode)
      =
    some (.str (contextsText encode vs)) := by
  have hcarried : (carried encode (fresh encode vs).pairs).Holds [] := Or.inr ⟨rfl, rfl⟩
  have hpieces : contextsDocuments (pending (fresh encode vs)) = [vs].map wrap := by
    have hnone : contextsDocuments (fresh encode vs).deferred = [].map wrap := rfl
    rw [contextsDocuments_pending_wrap hnone, if_neg (by simpa [fresh] using hvs)]
    rfl
  rw [get?_contextsKey_pieces (leavesContexts_fresh encode vs) hcarried hpieces (List.cons_ne_nil _ _)]
  rw [List.flatten_singleton, List.nil_append]

theorem get?_contextsKey_fresh_nil (encode : Bool) :
    ((fresh encode []).standardPayload encode).get? (contextsKey encode) = none :=
  get?_contextsKey_standardPayload (leavesContexts_fresh encode []) (by simp [fresh]) rfl

theorem get?_contextsKey_routes (hsome : first ++ middle.flatten ++ last ≠ [])
    (hplain : ∀ v ∈ first, v.isPlain = true) (hfirst : ∀ v ∈ first, v.IsSerializable)
    (hds : LeavesContexts b.deferred)
    (hcarried : b.pairs.get? (contextsKey encode)
      = ((fresh encode first).standardPayload encode).get? (contextsKey encode))
    (hmiddle : contextsDocuments b.deferred = middle.map wrap) (hlast : b.entities = last) :
    (b.standardPayload encode).get? (contextsKey encode)
      =
    some (.str (contextsText encode (first ++ middle.flatten ++ last))) := by
  have hpieces := contextsDocuments_pending_wrap hmiddle
  rw [hlast] at hpieces
  generalize hrest : (middle ++ if last.isEmpty then [] else [last]) = pieces at hpieces
  have hflatten : pieces.flatten = middle.flatten ++ last := by
    rw [← hrest, List.flatten_append]
    cases last <;> simp
  rw [List.append_assoc, ← hflatten] at hsome ⊢
  by_cases hnil : first = []
  . -- Nothing is carried, so there are pieces that wait.
    subst hnil
    rw [List.nil_append] at hsome ⊢
    have hholds : (carried encode b.pairs).Holds [] := by
      rw [get?_contextsKey_fresh_nil] at hcarried
      exact Or.inr ⟨by rw [carried, hcarried], rfl⟩
    apply get?_contextsKey_pieces hds hholds hpieces
    rintro rfl
    exact hsome rfl
  . rw [get?_contextsKey_fresh encode hnil] at hcarried
    cases pieces with
    | nil =>
      -- Nothing waits, and the text of the earlier build stays as it is.
      rw [get?_contextsKey_of_leavesContexts encode hds, hpieces, hcarried, List.flatten_nil,
        List.append_nil]
      rfl
    | cons piece pieces =>
      have hholds : (carried encode b.pairs).Holds (Value.listedItems first) :=
        Or.inl (carried_contextsText hplain hfirst hcarried)
      rw [get?_contextsKey_pieces hds hholds hpieces (List.cons_ne_nil _ _),
        contextsText_listed_append]

/--
Entities lead to one text by whatever routes they come: carried by the payload as the text of an earlier
build, waiting in contexts documents, or attached one by one. Only those that are carried are read back,
so only they have to be plain.
-/
theorem build_routes (process : ProcessorBehaviour σ) (s s₀ s₁ : Session σ) {previous : Pairs}
    {b₀ : Builder} (hsome : first ++ middle.flatten ++ last ≠ [])
    (hplain : ∀ v ∈ first, v.isPlain = true)
    (hdata : ∀ v ∈ first ++ middle.flatten ++ last, v.IsSerializable)
    (hprevious : build process (fresh encode first, s₀) = (.ok previous, b₀, s₁))
    (hopen : b.built = none) (hprocessor : b.processor = some (.standard encode))
    (h : IsBuildable encode b) (hds : LeavesContexts b.deferred)
    (hcarried : b.pairs.get? (contextsKey encode) = previous.get? (contextsKey encode))
    (hmiddle : contextsDocuments b.deferred = middle.map wrap) (hlast : b.entities = last) :
    ∃ payload b' s' whole b'' s'' text, build process (b, s) = (.ok payload, b', s')
      ∧ build process (fresh encode (first ++ middle.flatten ++ last), s) = (.ok whole, b'', s'')
      ∧ payload.get? (contextsKey encode) = some (.str text)
      ∧ whole.get? (contextsKey encode) = some (.str text) := by
  have hfirst : ∀ v ∈ first, v.IsSerializable :=
    fun v hv => hdata v (List.mem_append_left _ (List.mem_append_left _ hv))
  obtain ⟨_, hfresh, _⟩ := build_run process rfl rfl (isBuildable_fresh encode hfirst) s₀
  rw [hprevious] at hfresh
  obtain ⟨s', hbuild, _⟩ := build_run process hopen hprocessor h s
  obtain ⟨s'', hwhole, _⟩ := build_run process rfl rfl (isBuildable_fresh encode hdata) s
  refine ⟨_, _, s', _, _, s'', _, hbuild, hwhole, ?_, get?_contextsKey_fresh encode hsome⟩
  apply get?_contextsKey_routes hsome hplain hfirst hds _ hmiddle hlast
  rw [hcarried, Except.ok.inj (Prod.mk.inj hfresh).1]

def withTuple : Value := .object [(.str "ids", .tuple [.str "é", .null])]

def threeRoutes : Builder where
  pairs := [("cx", .str (contextsText true [withTuple]))]
  deferred := [⟨"cx", "co", wrap []⟩, ⟨"cx", "co", wrap [.str "waiting"]⟩]
  entities := [.str "own"]
  processor := some (.standard true)
  built := none

theorem isSerializable_threeRoutes :
    ∀ v ∈ [withTuple, .str "waiting", .str "own"], v.IsSerializable := by
  simp only [List.forall_mem_cons, List.not_mem_nil, false_implies, implies_true, and_true]
  exact ⟨⟨.obj [("ids", .arr [.str "é", .null])], rfl⟩, Value.isSerializable_str _,
    Value.isSerializable_str _⟩

theorem hasDocuments_threeRoutes : HasDocuments threeRoutes where
  deferred := by
    simp only [threeRoutes, List.forall_mem_cons, List.not_mem_nil, false_implies, implies_true, and_true]
    refine ⟨Value.isSerializable_object.2 (areSerializable_wrap (by simp)),
      Value.isSerializable_object.2 (areSerializable_wrap ?_)⟩
    exact List.forall_mem_singleton.2 (Value.isSerializable_str "waiting")
  entities := List.forall_mem_singleton.2 (Value.isSerializable_str "own")

theorem isBuildable_threeRoutes : IsBuildable true threeRoutes where
  toHasDocuments := hasDocuments_threeRoutes
  reads := by
    have hcarried := areSerializable_wrap
      (List.forall_mem_singleton.2 (isSerializable_threeRoutes _ List.mem_cons_self))
    have hread : overflow? true threeRoutes.pairs = Json.overflow? (contextsText false [withTuple]) :=
      overflow?_of_textOf (Value.isSerializable_object.2 hcarried) rfl
    exact fun _ => hread.trans (Json.overflow?_of_length_le (by decide +kernel))

theorem build_routes_threeRoutes :
    ∃ payload b' s' whole b'' s'' text,
      build (fun _ _ _ => pure .null) (threeRoutes, .initial () (.whole 0) "" toString)
        = (.ok payload, b', s')
      ∧ build (fun _ _ _ => pure .null)
          (fresh true [withTuple, .str "waiting", .str "own"], .initial () (.whole 0) "" toString)
        = (.ok whole, b'', s'')
      ∧ payload.get? "cx" = some (.str text) ∧ whole.get? "cx" = some (.str text) := by
  have hfirst : ∀ v ∈ [withTuple], v.IsSerializable :=
    List.forall_mem_singleton.2 (isSerializable_threeRoutes _ List.mem_cons_self)
  have hplain : ∀ v ∈ [withTuple], v.isPlain = true := List.forall_mem_singleton.2 rfl
  have hds : LeavesContexts threeRoutes.deferred := by
    simp [LeavesContexts, threeRoutes, isContexts, encodedContextsKey]
  obtain ⟨s₁, hprevious, _⟩ := build_run (fun _ _ _ => pure .null) rfl rfl
    (isBuildable_fresh true hfirst) (.initial () (.whole 0) "" toString)
  have hcarried := (get?_contextsKey_fresh true (List.cons_ne_nil withTuple [])).symm
  have hmiddle : contextsDocuments threeRoutes.deferred = [[], [.str "waiting"]].map wrap := rfl
  have hlast : threeRoutes.entities = [.str "own"] := rfl
  have hsome : [withTuple] ++ [[], [.str "waiting"]].flatten ++ [.str "own"] ≠ [] :=
    List.cons_ne_nil _ _
  have hroutes := build_routes (fun _ _ _ => pure .null) (.initial () (.whole 0) "" toString) _ s₁ hsome
    hplain isSerializable_threeRoutes hprevious rfl rfl isBuildable_threeRoutes hds hcarried hmiddle
    hlast
  exact hroutes

end Builder

end EventTracking
