import SecureHeaders.Http.Server
/-!
What a server answers, in one equation: a layer goes through the choice of a route, so an answer is
that of the page itself with the work of the layers on it, and with what is filled in last around
it. The header of a request's id is left alone by the pages and by what is filled in.
-/

namespace SecureHeaders.Http

open Header (Fields Name Value)

namespace Router

theorem find?_layer (r : Router) (l : Layer) (path : String) :
    (r.layer l).find? path =
      (r.find? path).map fun route =>
        { route with service := l route.service, refusal := l route.refusal } :=
  List.find?_map

theorem choose_layer (r : Router) (l : Layer) (request : Request) :
    (r.layer l).choose request =
      { r.choose request with service := l (r.choose request).service } := by
  unfold choose
  rw [find?_layer]
  cases r.find? request.path with
  | none => rfl
  | some route =>
      rw [Option.map_some]
      dsimp only
      split <;> rfl

theorem layer_id (r : Router) : r.layer id = r := by
  have same : (r.routes.map fun route =>
      { route with service := id route.service, refusal := id route.refusal }) = r.routes :=
    List.map_id _
  unfold layer
  rw [same]
  rfl

/-- The services that a router can choose. -/
def services (r : Router) : List Service :=
  r.fallback :: r.routes.flatMap fun route => [route.service, route.refusal]

theorem choose_service_mem (r : Router) (request : Request) :
    (r.choose request).service ∈ r.services := by
  unfold choose services
  split
  · exact List.mem_cons_self
  · rename_i route found
    have member : route ∈ r.routes := List.mem_of_find?_eq_some found
    apply List.mem_cons_of_mem
    apply List.mem_flatMap.2
    refine ⟨route, member, ?_⟩
    split
    · exact List.mem_cons_self
    · exact List.mem_cons_of_mem _ List.mem_cons_self

end Router

theorem securityHeaders_of_isEmpty {chain : Chain} (empty : chain.isEmpty = true) :
    securityHeaders chain = id := by
  obtain ⟨writers⟩ := chain
  obtain rfl : writers = [] := List.isEmpty_iff.1 empty
  funext service request
  simp [securityHeaders, Chain.writeAll]

/-- Leaving an empty chain out is as good as registering it. -/
theorem Router.secure_eq_layer (r : Router) (chain : Chain) :
    r.secure chain = r.layer (securityHeaders chain) := by
  unfold secure
  split
  · rename_i empty
    rw [securityHeaders_of_isEmpty empty, layer_id]
  · rfl

/-- The request as it is served: with an id. -/
def Request.identified (request : Request) (fresh : Value) : Request :=
  if request.headers.contains xRequestId then request
  else { request with headers := request.headers.insert xRequestId fresh }

/-- The id that a request is served under: its own first one, else a fresh one. -/
def Request.servedId (request : Request) (fresh : Value) : Value :=
  (request.headers.get? xRequestId).getD fresh

/-- Puts an id on a message that has none. -/
def echo (id : Value) (m : Fields) : Fields :=
  if m.contains xRequestId then m else m.insert xRequestId id

theorem setRequestId_apply (fresh : Value) (service : Service) (request : Request) :
    setRequestId fresh service request = service (request.identified fresh) := by
  unfold setRequestId Request.identified
  split <;> rfl

theorem get?_identified (request : Request) (fresh : Value) :
    (request.identified fresh).headers.get? xRequestId = some (request.servedId fresh) := by
  unfold Request.identified Request.servedId
  split
  · rename_i own
    have some := Fields.contains_iff.1 own
    cases values : request.headers.values xRequestId with
    | nil => exact absurd values some
    | cons id more => simp only [Fields.get?, values, List.head?_cons, Option.getD_some]
  · rename_i none
    have free := Fields.contains_eq_false_iff.1 (Bool.eq_false_iff.2 none)
    simp only [Fields.get?, Fields.values_insert, if_true, List.head?_cons, free, List.head?_nil,
      Option.getD_none]

theorem values_echo (id : Value) (m : Fields) (n : Name) :
    (echo id m).values n =
      if n = xRequestId ∧ m.values xRequestId = [] then [id] else m.values n := by
  unfold echo
  split
  · rename_i own
    have full := Fields.contains_iff.1 own
    exact (if_neg fun both => full both.2).symm
  · rename_i none
    have free := Fields.contains_eq_false_iff.1 (Bool.eq_false_iff.2 none)
    simp only [Fields.values_insert, free, and_true]

theorem propagateRequestId_apply (service : Service) {request : Request} {id : Value}
    (identified : request.headers.get? xRequestId = some id) :
    propagateRequestId service request =
      { service request with
        response := { (service request).response with
          headers := echo id (service request).response.headers } } := by
  unfold propagateRequestId echo
  rw [identified]
  cases present : (service request).response.headers.contains xRequestId <;> simp [present]

/-- The response of a page, a refusal or the fallback, before any layer has seen it. -/
def bare (request : Request) : Response := ((pages.choose request).service request).response

theorem pages_services :
    pages.services = [notFoundPage, indexPage, refused, healthPage, refused].map Service.always :=
  rfl

theorem choose_pages (request : Request) :
    (pages.choose request).service = Service.always (bare request) ∧
      bare request ∈ [notFoundPage, indexPage, refused, healthPage, refused] := by
  have member := pages.choose_service_mem request
  rw [pages_services] at member
  obtain ⟨response, page, same⟩ := List.mem_map.1 member
  have own : bare request = response := by
    rw [bare, ← same]
    rfl
  rw [own]
  exact ⟨same.symm, page⟩

/-- The page for a request, told by its path and its method. -/
theorem bare_eq (request : Request) :
    bare request =
      if request.path = "/" then if isAllowed request.method then indexPage else refused
      else if request.path = "/health" then if isAllowed request.method then healthPage else refused
      else notFoundPage := by
  unfold bare Router.choose
  have found : pages.find? request.path =
      if request.path = "/" then some ⟨"/", Service.always indexPage, Service.always refused⟩
      else if request.path = "/health" then
        some ⟨"/health", Service.always healthPage, Service.always refused⟩
      else none := by
    by_cases root : request.path = "/"
    · rw [if_pos root, root]
      rfl
    · by_cases health : request.path = "/health"
      · rw [if_neg root, if_pos health, health]
        rfl
      · have first : ("/" == request.path) = false := beq_false_of_ne fun same => root same.symm
        have second : ("/health" == request.path) = false :=
          beq_false_of_ne fun same => health same.symm
        rw [if_neg root, if_neg health]
        simp [Router.find?, pages, Router.withFallback, Router.route, Router.empty, first, second]
  rw [found]
  by_cases root : request.path = "/"
  · simp only [if_pos root]
    split <;> rfl
  · by_cases health : request.path = "/health"
    · simp only [if_neg root, if_pos health]
      split <;> rfl
    · simp only [if_neg root, if_neg health]
      rfl

/-- The content type that the page for a request has; a refused method gets none. -/
def pageType (request : Request) : Option Value :=
  if request.path = "/" then if isAllowed request.method then some plainText else none
  else if request.path = "/health" then if isAllowed request.method then some jsonText else none
  else some plainText

theorem values_page (status : Nat) (type : Value) (body : String) (n : Name) :
    (page status type body).headers.values n = if n = contentType then [type] else [] := by
  rw [page, Fields.values_append, Fields.values_empty]
  rfl

theorem values_refused (n : Name) : refused.headers.values n = [] := rfl

/-- A page sets its content type and no other header. -/
theorem values_bare (request : Request) (n : Name) :
    (bare request).headers.values n =
      if n = contentType then (pageType request).toList else [] := by
  rw [bare_eq, pageType]
  split
  · split
    · exact values_page ..
    · rw [values_refused, Option.toList_none, ite_self]
  · split
    · split
      · exact values_page ..
      · rw [values_refused, Option.toList_none, ite_self]
    · exact values_page ..

theorem contains_xRequestId_bare (request : Request) :
    (bare request).headers.contains xRequestId = false := by
  have other : xRequestId ≠ contentType := by decide
  rw [Fields.contains_eq_false_iff, values_bare, if_neg other]

theorem values_addIfAbsent_of_settled {m : Fields} {k n : Name}
    (settled : k = n → m.values k ≠ []) (v : Value) :
    (addIfAbsent m n v).values k = m.values k := by
  rw [values_addIfAbsent]
  apply if_neg
  rintro ⟨rfl, free⟩
  exact settled rfl free

theorem values_echo_of_settled {m : Fields} {n : Name}
    (settled : n = xRequestId → m.values n ≠ []) (id : Value) :
    (echo id m).values n = m.values n := by
  rw [values_echo]
  apply if_neg
  rintro ⟨rfl, free⟩
  exact settled rfl free

/-- A name stays as it is unless it is one of those filled in and nothing stands under it. -/
theorem Router.values_finish {r : Response} {n : Name}
    (refusal : n = allow → r.headers.values n ≠ [])
    (length : n = contentLength → r.headers.values n ≠ []) (c : Choice) (request : Request) :
    (finish c request r).headers.values n = r.headers.values n := by
  unfold finish
  have first : (if c.refuses then addIfAbsent r.headers allow allowedMethods
      else r.headers).values n = r.headers.values n := by
    split
    · exact values_addIfAbsent_of_settled refusal _
    · rfl
  dsimp only
  split
  · rw [values_addIfAbsent_of_settled (first.symm ▸ length)]
    exact first
  · exact first

/-- The chain runs on what the page has set, the id is echoed onto the outcome, and both happen
before anything is filled in. -/
theorem Server.answer_eq (s : Server) (fresh : Value) (request : Request) :
    s.answer fresh request =
      { response := Router.finish (pages.choose request) request
          { bare request with
            headers := echo (request.servedId fresh)
              (s.chain.writeAll (bare request).headers).1 }
        counted := (s.chain.writeAll (bare request).headers).2.map Metric.headerWritten ++
          [.request (bare request).status]
        spans := [spanOf (request.identified fresh)] } := by
  unfold Server.answer layered Router.answer
  rw [Router.secure_eq_layer]
  simp only [Router.choose_layer, setRequestId_apply, trace, (choose_pages request).1,
    propagateRequestId_apply _ (get?_identified request fresh)]
  rfl

theorem Server.status_answer (s : Server) (fresh : Value) (request : Request) :
    (s.answer fresh request).response.status = (bare request).status := by
  rw [answer_eq]
  rfl

theorem Server.body_answer (s : Server) (fresh : Value) (request : Request) :
    (s.answer fresh request).response.body =
      if request.method = "HEAD" then [] else (bare request).body := by
  rw [answer_eq]
  rfl

/-- What the chain leaves under a name stays there to the end. -/
theorem Server.values_answer_of_ne_nil {s : Server} {request : Request} {n : Name}
    (full : (s.chain.writeAll (bare request).headers).1.values n ≠ []) (fresh : Value) :
    (s.answer fresh request).response.headers.values n =
      (s.chain.writeAll (bare request).headers).1.values n := by
  have echoed := values_echo_of_settled (fun _ => full) (request.servedId fresh)
  have kept := echoed.symm ▸ full
  rw [answer_eq]
  dsimp only
  rw [Router.values_finish (fun _ => kept) (fun _ => kept)]
  exact echoed

end SecureHeaders.Http
