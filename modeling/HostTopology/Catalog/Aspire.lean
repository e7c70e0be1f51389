import HostTopology.Catalog.Basic

/-!
# Aspire — the resource types and chaining methods of Aspire hosting

The tables of all resource types, `resourceTypes`, and of all methods that can follow a
declaration, `chainingMethods`, both in the order in which they are listed everywhere.
-/

namespace HostTopology
namespace Catalog

/-- The version of the SDK and of every package. -/
def aspireVersion : String := "13.0.0"

/-- The package that the SDK brings along; it needs no directive. -/
def builtinPackage : String := "Aspire.Hosting"

/-! ## C# types -/

def stringType : TypeName := ⟨"string", "System", "System.String"⟩

def intType : TypeName := ⟨"int", "System", "System.Int32"⟩

def stringArrayType : TypeName := ⟨"string[]", "System", "System.String[]"⟩

/-- A type of the application model. -/
def modelType (name : String) : TypeName :=
  ⟨name, "Aspire.Hosting.ApplicationModel", "Aspire.Hosting.ApplicationModel." ++ name⟩

def builderOf (resource : String) : TypeName :=
  modelType ("IResourceBuilder<" ++ resource ++ ">")

/-! ## Parameters -/

def optionalParameter (name : String) (type : TypeName) (description : String) : Parameter :=
  ⟨name, type, false, none, some description, none⟩

def requiredParameter (name : String) (type : TypeName) (description : String) : Parameter :=
  ⟨name, type, true, none, some description, none⟩

def portRange : Constraints := .between 1 65535

def nameParameter (description : String) (maxLength : Int) : Parameter :=
  { requiredParameter "name" stringType description with constraints := some (.identifier maxLength) }

def portParameter (default : Int) (description : String) : Parameter :=
  { optionalParameter "port" intType description with
    default := some (.int default), constraints := some portRange }

def pathParameter (name description : String) : Parameter :=
  { requiredParameter name stringType description with constraints := some .path }

def patternParameter (name : String) (p : Pattern) (description : String) : Parameter :=
  { requiredParameter name stringType description with constraints := some (.ofPattern p) }

def endpointParameters (defaultName : String) (withEnv : Bool) : List Parameter :=
  [{ optionalParameter "port" intType "The host port to expose" with constraints := some portRange },
    { optionalParameter "targetPort" intType "The container port to map to" with
      constraints := some portRange },
    { optionalParameter "name" stringType "The endpoint name" with default := some (.text defaultName) }]
    ++ if withEnv then [optionalParameter "env" stringType "Environment variable for port injection"]
      else []

/-! ## Methods -/

def builderMethod (name description resource : String) (parameters : List Parameter) : ApiMethod :=
  ⟨name, description, parameters, builderOf resource, "IDistributedApplicationBuilder", []⟩

def chainingMethod (name description : String) (availableFor : List ResourceCategory)
    (parameters : List Parameter) (repeatable : Bool) : ChainingMethod :=
  ⟨⟨name, description, parameters, builderOf "T", "IResourceBuilder<T>", []⟩, availableFor, repeatable⟩

/-- The categories of resources that use others. -/
def consumers : List ResourceCategory := [.project, .container, .compute]

def allBackends : List ResourceCategory := [.database, .cache, .messaging, .ai, .project, .container]

def brokers : List ResourceCategory := [.messaging]

def chainingMethods : List ChainingMethod := [
  chainingMethod "WithReference"
    "Adds a reference to another resource, making it available via dependency injection" consumers
    [requiredParameter "resource" (builderOf "T") "The resource to reference"] true,
  chainingMethod "WaitFor"
    "Waits for the specified resource to be ready before starting this resource" consumers
    [requiredParameter "resource" (builderOf "T") "The resource to wait for"] true,
  chainingMethod "WithLifetime" "Sets the container lifetime for the resource"
    [.database, .cache, .messaging]
    [{ requiredParameter "lifetime" (modelType "ContainerLifetime") "The container lifetime" with
      constraints := some (.oneOf [.text "Persistent", .text "Session"]) }] false,
  chainingMethod "WithEnvironment" "Adds an environment variable to the resource" consumers
    [patternParameter "name" .envKey "The environment variable name",
      requiredParameter "value" stringType "The environment variable value"] true,
  chainingMethod "WithHttpEndpoint" "Exposes an HTTP endpoint for the resource" consumers
    (endpointParameters "http" true) true,
  chainingMethod "WithHttpsEndpoint" "Exposes an HTTPS endpoint for the resource" consumers
    (endpointParameters "https" false) true,
  chainingMethod "WithBindMount" "Adds a bind mount to the container"
    [.container, .database, .cache, .messaging]
    [pathParameter "source" "The source path on the host",
      pathParameter "target" "The target path in the container"] true,
  chainingMethod "WithReplicas" "Sets the number of replicas for the resource" consumers
    [{ requiredParameter "count" intType "The number of replicas" with
      constraints := some (.between 1 100) }] false,
  chainingMethod "WithManagementPlugin" "Enables the RabbitMQ management UI" brokers [] false,
  chainingMethod "WithKafkaUI" "Adds a Kafka UI container for the broker" brokers [] false,
  chainingMethod "WithJetStream" "Enables JetStream on the NATS server" brokers [] false]

/-! ## Resource types -/

def backingChaining : List String := ["WithLifetime", "WithEnvironment", "WithBindMount"]

def appChaining : List String :=
  ["WithReference", "WaitFor", "WithEnvironment", "WithHttpEndpoint", "WithReplicas"]

/-- A database server, on which databases can be declared. -/
def databaseType (id displayName package method server database : String) (maxLength port : Int)
    (connection : String) : ResourceType where
  id := id
  displayName := displayName
  category := .database
  package := package
  packageVersion := aspireVersion
  builder := builderMethod method ("Adds a " ++ displayName ++ " server resource to the application") server
    [nameParameter ("The name of the " ++ displayName ++ " server resource") maxLength,
      portParameter port ("The host port for the " ++ displayName ++ " server")]
  children := [⟨"AddDatabase", "Adds a database to the " ++ displayName ++ " server",
    [nameParameter "The name of the database" maxLength], builderOf database,
    "IResourceBuilder<" ++ server ++ ">", []⟩]
  chaining := backingChaining
  builderReturn := builderOf server
  connectionString := some connection
  connectsTo := []
  referencedBy := consumers

/-- A cache or a broker. -/
def serviceType (id displayName : String) (category : ResourceCategory)
    (package method resource : String) (port : Int) (connection : String) (extra : List String) :
    ResourceType where
  id := id
  displayName := displayName
  category := category
  package := package
  packageVersion := aspireVersion
  builder := builderMethod method ("Adds a " ++ displayName ++ " resource to the application") resource
    [nameParameter ("The name of the " ++ displayName ++ " resource") 63,
      portParameter port ("The host port for the " ++ displayName ++ " server")]
  children := []
  chaining := backingChaining ++ extra
  builderReturn := builderOf resource
  connectionString := some connection
  connectsTo := []
  referencedBy := consumers

/-- A workload. -/
def appType (id displayName package : String) (builder : ApiMethod) (resource : String)
    (chaining : List String) (connectsTo : List ResourceCategory) (category : ResourceCategory) :
    ResourceType where
  id := id
  displayName := displayName
  category := category
  package := package
  packageVersion := aspireVersion
  builder := builder
  children := []
  chaining := chaining
  builderReturn := builderOf resource
  connectionString := none
  connectsTo := connectsTo
  referencedBy := []

def databaseTypes : List ResourceType := [
  databaseType "postgres" "PostgreSQL" "Aspire.Hosting.PostgreSQL" "AddPostgres"
    "PostgresServerResource" "PostgresDatabaseResource" 63 5432
    ("Host=\x7bhost\x7d;Port=\x7bport\x7d;Database=\x7bdatabase\x7d;Username=\x7busername\x7d;"
      ++ "Password=\x7bpassword\x7d"),
  databaseType "sqlserver" "SQL Server" "Aspire.Hosting.SqlServer" "AddSqlServer"
    "SqlServerServerResource" "SqlServerDatabaseResource" 128 1433
    ("Server=\x7bhost\x7d,\x7bport\x7d;Database=\x7bdatabase\x7d;User Id=\x7busername\x7d;"
      ++ "Password=\x7bpassword\x7d;TrustServerCertificate=True"),
  databaseType "mongodb" "MongoDB" "Aspire.Hosting.MongoDB" "AddMongoDB"
    "MongoDBServerResource" "MongoDBDatabaseResource" 63 27017
    "mongodb://\x7busername\x7d:\x7bpassword\x7d@\x7bhost\x7d:\x7bport\x7d",
  databaseType "mysql" "MySQL" "Aspire.Hosting.MySql" "AddMySql"
    "MySqlServerResource" "MySqlDatabaseResource" 64 3306
    ("Server=\x7bhost\x7d;Port=\x7bport\x7d;Database=\x7bdatabase\x7d;User=\x7busername\x7d;"
      ++ "Password=\x7bpassword\x7d"),
  databaseType "oracle" "Oracle Database" "Aspire.Hosting.Oracle" "AddOracle"
    "OracleDatabaseServerResource" "OracleDatabaseResource" 128 1521
    ("Data Source=\x7bhost\x7d:\x7bport\x7d/\x7bdatabase\x7d;User Id=\x7busername\x7d;"
      ++ "Password=\x7bpassword\x7d")]

def hostAndPort : String := "\x7bhost\x7d:\x7bport\x7d"

def serviceTypes : List ResourceType := [
  serviceType "redis" "Redis" .cache "Aspire.Hosting.Redis" "AddRedis" "RedisResource" 6379
    hostAndPort [],
  serviceType "valkey" "Valkey" .cache "Aspire.Hosting.Valkey" "AddValkey" "ValkeyResource" 6379
    hostAndPort [],
  serviceType "garnet" "Garnet" .cache "Aspire.Hosting.Garnet" "AddGarnet" "GarnetResource" 6379
    hostAndPort [],
  serviceType "rabbitmq" "RabbitMQ" .messaging "Aspire.Hosting.RabbitMQ" "AddRabbitMQ"
    "RabbitMQServerResource" 5672 ("amqp://\x7busername\x7d:\x7bpassword\x7d@" ++ hostAndPort)
    ["WithManagementPlugin"],
  serviceType "kafka" "Apache Kafka" .messaging "Aspire.Hosting.Kafka" "AddKafka"
    "KafkaServerResource" 9092 hostAndPort ["WithKafkaUI"],
  serviceType "nats" "NATS" .messaging "Aspire.Hosting.Nats" "AddNats" "NatsServerResource" 4222
    ("nats://" ++ hostAndPort) ["WithJetStream"]]

/-- A connection string to a service outside the application. -/
def openaiType : ResourceType where
  id := "openai"
  displayName := "OpenAI"
  category := .ai
  package := builtinPackage
  packageVersion := aspireVersion
  builder := builderMethod "AddConnectionString" "Adds a connection string for OpenAI API"
    "ConnectionStringResource" [nameParameter "The name of the connection string resource" 128]
  children := []
  chaining := []
  builderReturn := builderOf "ConnectionStringResource"
  connectionString := none
  connectsTo := []
  referencedBy := consumers

def ollamaType : ResourceType where
  id := "ollama"
  displayName := "Ollama"
  category := .ai
  package := "Aspire.Hosting.Ollama"
  packageVersion := aspireVersion
  builder := builderMethod "AddOllama" "Adds an Ollama resource to the application" "OllamaResource"
    [nameParameter "The name of the Ollama resource" 63,
      portParameter 11434 "The host port for the Ollama server"]
  children := [⟨"AddModel", "Adds a model to the Ollama server",
    [requiredParameter "name" stringType "The name of the model"], builderOf "OllamaModelResource",
    "IResourceBuilder<OllamaResource>", []⟩]
  chaining := backingChaining
  builderReturn := builderOf "OllamaResource"
  connectionString := some ("http://" ++ hostAndPort)
  connectsTo := []
  referencedBy := consumers

def appTypes : List ResourceType := [
  appType "dotnet-project" "C# Project" builtinPackage
    { builderMethod "AddProject" "Adds a .NET project to the distributed application" "ProjectResource"
        [nameParameter "The name of the project resource" 128] with
      genericConstraints := ["TProject : IProjectMetadata, new()"] }
    "ProjectResource"
    ["WithReference", "WaitFor", "WithEnvironment", "WithHttpEndpoint", "WithHttpsEndpoint", "WithReplicas"]
    allBackends .project,
  appType "node-app" "Node.js App" "Aspire.Hosting.NodeJs"
    (builderMethod "AddNodeApp" "Adds a Node.js application to the distributed application"
      "NodeAppResource"
      [nameParameter "The name of the Node.js resource" 128,
        pathParameter "scriptPath" "The path to the Node.js project directory",
        optionalParameter "args" stringArrayType "Arguments to pass to npm"])
    "NodeAppResource" appChaining allBackends .project,
  appType "vite-app" "Vite App" "Aspire.Hosting.NodeJs"
    (builderMethod "AddViteApp" "Adds a Vite application to the distributed application"
      "ViteAppResource"
      [nameParameter "The name of the Vite resource" 128,
        pathParameter "workingDirectory" "The path to the Vite project directory"])
    "ViteAppResource" appChaining [.project, .ai, .container] .project,
  appType "python-app" "Python App" "Aspire.Hosting.Python"
    (builderMethod "AddPythonApp" "Adds a Python application to the distributed application"
      "PythonAppResource"
      [nameParameter "The name of the Python resource" 128,
        pathParameter "projectDirectory" "The path to the Python project directory",
        patternParameter "scriptPath" .script "The name of the Python script to run"])
    "PythonAppResource" appChaining allBackends .project,
  appType "container" "Container" builtinPackage
    (builderMethod "AddContainer" "Adds a custom container to the distributed application"
      "ContainerResource"
      [nameParameter "The name of the container resource" 128,
        patternParameter "image" .image "The container image name",
        { optionalParameter "tag" stringType "The container image tag" with
          default := some (.text "latest") }])
    "ContainerResource"
    ["WithReference", "WaitFor", "WithEnvironment", "WithHttpEndpoint", "WithHttpsEndpoint",
      "WithBindMount", "WithReplicas"]
    allBackends .container]

def resourceTypes : List ResourceType :=
  databaseTypes ++ serviceTypes ++ [openaiType, ollamaType] ++ appTypes

end Catalog
end HostTopology
