import HostTopology.Topology.Basic

/-!
# Template — built-in topologies to start from
-/

namespace HostTopology

structure Template where
  id : String
  name : String
  description : String
  category : String
  tags : List String
  topology : Topology
deriving DecidableEq, Repr

/-- A name that no template has. -/
structure UnknownTemplate where
  id : String
deriving DecidableEq, Repr

namespace Template

/-! ## Parts -/

def server (id type name database : String) : ResourceInstance :=
  ⟨id, type, name, some database, { ResourceConfig.empty with persistent := some true }⟩

def service (id type name : String) : ResourceInstance :=
  ⟨id, type, name, none, .empty⟩

/-- References between instances, numbered from zero. -/
def references (ends : List (String × String)) : List Connection :=
  ends.zipIdx.map fun ((source, target), n) => ⟨"edge_" ++ toString n, source, target, .reference⟩

/-! ## The templates -/

def webApiPostgres : Template where
  id := "web-api-postgres"
  name := "Web API + PostgreSQL"
  description := "Simple web API with PostgreSQL database"
  category := "starter"
  tags := ["web", "database", "starter"]
  topology := {
    instances := [
      server "node_0" "postgres" "postgres" "appdb",
      service "node_1" "dotnet-project" "webapi"]
    connections := references [("node_0", "node_1")] }

def microservicesBasic : Template where
  id := "microservices-basic"
  name := "Microservices with Message Queue"
  description := "Two services communicating via RabbitMQ"
  category := "microservices"
  tags := ["microservices", "messaging", "rabbitmq"]
  topology := {
    instances := [
      service "node_0" "rabbitmq" "messaging",
      service "node_1" "dotnet-project" "orderservice",
      service "node_2" "dotnet-project" "inventoryservice"]
    connections := references [("node_0", "node_1"), ("node_0", "node_2")] }

def fullstackApp : Template where
  id := "fullstack-app"
  name := "Full Stack Application"
  description := "React frontend, .NET API, PostgreSQL, Redis cache"
  category := "fullstack"
  tags := ["fullstack", "react", "cache", "database"]
  topology := {
    instances := [
      server "node_0" "postgres" "postgres" "appdb",
      service "node_1" "redis" "cache",
      service "node_2" "dotnet-project" "api",
      service "node_3" "vite-app" "frontend"]
    connections := references [("node_0", "node_2"), ("node_1", "node_2"), ("node_2", "node_3")] }

def aiChatbot : Template where
  id := "ai-chatbot"
  name := "AI Chatbot with Vector DB"
  description := "OpenAI integration with PostgreSQL for embeddings"
  category := "ai"
  tags := ["ai", "openai", "postgres", "chatbot"]
  topology := {
    instances := [
      service "node_0" "openai" "openai",
      server "node_1" "postgres" "vectordb" "embeddings",
      service "node_2" "dotnet-project" "chatbot"]
    connections := references [("node_0", "node_2"), ("node_1", "node_2")] }

def eventDriven : Template where
  id := "event-driven"
  name := "Event-Driven Architecture"
  description := "Kafka-based event streaming with multiple consumers"
  category := "microservices"
  tags := ["kafka", "streaming", "events"]
  topology := {
    instances := [
      service "node_0" "kafka" "kafka",
      service "node_1" "dotnet-project" "producer",
      service "node_2" "dotnet-project" "consumer1",
      service "node_3" "dotnet-project" "consumer2"]
    connections := references [("node_0", "node_1"), ("node_0", "node_2"), ("node_0", "node_3")] }

def multiDatabase : Template where
  id := "multi-database"
  name := "Multi-Database Application"
  description := "Application using PostgreSQL, MongoDB, and Redis"
  category := "data"
  tags := ["database", "postgres", "mongodb", "redis"]
  topology := {
    instances := [
      server "node_0" "postgres" "postgres" "maindb",
      server "node_1" "mongodb" "mongodb" "documents",
      service "node_2" "redis" "cache",
      service "node_3" "dotnet-project" "api"]
    connections := references [("node_0", "node_3"), ("node_1", "node_3"), ("node_2", "node_3")] }

def all : List Template :=
  [webApiPostgres, microservicesBasic, fullstackApp, aiChatbot, eventDriven, multiDatabase]

/-- The categories with their titles. -/
def categories : List (String × String) := [
  ("starter", "Starter"), ("microservices", "Microservices"), ("fullstack", "Full Stack"),
  ("data", "Data"), ("ai", "AI")]

/-! ## Look-up -/

def find (id : String) : Except UnknownTemplate Template :=
  match all.find? fun t => t.id = id with
  | some t => .ok t
  | none => .error ⟨id⟩

end Template

def UnknownTemplate.message (e : UnknownTemplate) : String :=
  "Unknown template '" ++ e.id ++ "'. Available templates: "
    ++ ", ".intercalate (Template.all.map Template.id)

end HostTopology
