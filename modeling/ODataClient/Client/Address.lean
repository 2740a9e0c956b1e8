import ODataClient.Query.Basic

/-! # Addresses of requests
The paths of requests below the root of a service, and the addresses made of root and path. -/

namespace ODataClient

/-- What a path of an entity set is made of. -/
structure PathParts where
  /-- The version of the interface. -/
  apiVersion : String
  /-- The company that requests are scoped to. -/
  company : String
  /-- The name of the entity set. -/
  entitySet : String
  /-- The encoded query string; it may be empty. -/
  queryString : String
deriving DecidableEq, Repr

/-- A layout of the paths below the root of a service. -/
structure PathLayout where
  /-- The path of an entity set and its query. -/
  entitySetPath : PathParts → String
  /-- The path that batches are sent to, given the version. -/
  batchPath : String → String

namespace PathLayout

/-- A path with a query string, if there is one. -/
def withQuery (path queryString : String) : String :=
  if queryString.isEmpty then path else path ++ "?" ++ queryString

/-- The layout `version/companies(company)/set?query`. -/
def standard : PathLayout where
  entitySetPath parts :=
    withQuery (parts.apiVersion ++ "/companies(" ++ parts.company ++ ")/" ++ parts.entitySet)
      parts.queryString
  batchPath apiVersion := apiVersion ++ "/$batch"

/-- A layout that adds a parameter to the query of every entity set path. -/
def adding (parameter : String) (layout : PathLayout) : PathLayout where
  entitySetPath parts :=
    let path := layout.entitySetPath parts
    path ++ (if '?' ∈ path.toList then "&" else "?") ++ parameter
  batchPath := layout.batchPath

end PathLayout

/-- Where requests of a client go. -/
structure ServiceRoot where
  /-- The root address. -/
  baseUrl : String
  /-- The company that requests are scoped to. -/
  company : String
  /-- The version of the interface. -/
  apiVersion : String
  /-- The layout of paths. -/
  layout : PathLayout

namespace ServiceRoot

/-- A text without the slashes at its end. -/
def trimSlashes (text : String) : String :=
  String.ofList (text.toList.reverse.dropWhile (· == '/')).reverse

/-- The address of a path below the root. -/
def url (root : ServiceRoot) (path : String) : String := trimSlashes root.baseUrl ++ "/" ++ path

/-- The path of a query, given the entity set of its record type. -/
def queryPath (root : ServiceRoot) (entitySet : String) (query : Query) : String :=
  root.layout.entitySetPath {
    apiVersion := root.apiVersion
    company := root.company
    entitySet := query.entitySet.getD entitySet
    queryString := query.queryString }

/-- The address of a query. -/
def queryUrl (root : ServiceRoot) (entitySet : String) (query : Query) : String :=
  root.url (root.queryPath entitySet query)

/-- The address that batches are sent to. -/
def batchUrl (root : ServiceRoot) : String := root.url (root.layout.batchPath root.apiVersion)

end ServiceRoot

end ODataClient
