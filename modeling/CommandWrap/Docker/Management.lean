import CommandWrap.Command.Tree

/-!
# The smaller groups of management commands
-/
namespace CommandWrap.Docker

/-- The command `docker builder build`. -/
def builderBuildCommand : CommandTree :=
  .node
    { name := "build"
      usage := "build [OPTIONS] PATH | URL | -"
      short := "Build an image from a Dockerfile"
      flags := [
        ⟨"add-host", "list", "Add a custom host-to-IP mapping (host:ip)"⟩,
        ⟨"build-arg", "list", "Set build-time variables"⟩,
        ⟨"cache-from", "string", "Images to consider as cache sources"⟩,
        ⟨"cgroup-parent", "string", "Optional parent cgroup for the container"⟩,
        ⟨"compress", "bool", "Compress the build context using gzip"⟩,
        ⟨"cpu-period", "int64", "Limit the CPU CFS (Completely Fair Scheduler) period"⟩,
        ⟨"cpu-quota", "int64", "Limit the CPU CFS (Completely Fair Scheduler) quota"⟩,
        ⟨"cpu-shares", "int64", "CPU shares (relative weight)"⟩,
        ⟨"cpuset-cpus", "string", "CPUs in which to allow execution (0-3, 0,1)"⟩,
        ⟨"cpuset-mems", "string", "MEMs in which to allow execution (0-3, 0,1)"⟩,
        ⟨"disable-content-trust", "bool", "Skip image verification"⟩,
        ⟨"file", "string", "Name of the Dockerfile (Default is 'PATH/Dockerfile')"⟩,
        ⟨"force-rm", "bool", "Always remove intermediate containers"⟩,
        ⟨"iidfile", "string", "Write the image ID to the file"⟩,
        ⟨"isolation", "string", "Container isolation technology"⟩,
        ⟨"label", "list", "Set metadata for an image"⟩,
        ⟨"memory", "string", "Memory limit"⟩,
        ⟨"memory-swap", "string",
          "Swap limit equal to memory plus swap: '-1' to enable unlimited swap"⟩,
        ⟨"network", "string", "Set the networking mode for the RUN instructions during build"⟩,
        ⟨"no-cache", "bool", "Do not use cache when building the image"⟩,
        ⟨"output", "string", "Output destination (format: type=local,dest=path)"⟩,
        ⟨"platform", "string", "Set platform if server is multi-platform capable"⟩,
        ⟨"progress", "string",
          "Set type of progress output (auto, plain, tty). Use plain to show container output"⟩,
        ⟨"pull", "bool", "Always attempt to pull a newer version of the image"⟩,
        ⟨"quiet", "bool", "Suppress the build output and print image ID on success"⟩,
        ⟨"rm", "bool", "Remove intermediate containers after a successful build"⟩,
        ⟨"secret", "string",
          "Secret file to expose to the build (only if BuildKit enabled): id=mysecret,src=/local/secret"⟩,
        ⟨"security-opt", "string", "Security options"⟩,
        ⟨"shm-size", "string", "Size of /dev/shm"⟩,
        ⟨"squash", "bool", "Squash newly built layers into a single new layer"⟩,
        ⟨"ssh", "string",
          "SSH agent socket or keys to expose to the build (only if BuildKit enabled) (format: default|<id>[=<socket>|<key>[,<key>]])"⟩,
        ⟨"stream", "bool", "Stream attaches to server to negotiate build context"⟩,
        ⟨"tag", "list", "Name and optionally a tag in the 'name:tag' format"⟩,
        ⟨"target", "string", "Set the target build stage to build."⟩,
        ⟨"ulimit", "string", "Ulimit options"⟩] }
    []

/-- The command `docker builder prune`. -/
def builderPruneCommand : CommandTree :=
  .node
    { name := "prune"
      usage := "prune"
      short := "Remove build cache"
      flags := [
        ⟨"all", "bool", "Remove all unused build cache, not just dangling ones"⟩,
        ⟨"filter", "string", "Provide filter values (e.g. 'until=24h')"⟩,
        ⟨"force", "bool", "Do not prompt for confirmation"⟩,
        ⟨"keep-storage", "string", "Amount of disk space to keep for cache"⟩] }
    []

/-- The command `docker builder`. -/
def builderCommand : CommandTree :=
  .node
    { name := "builder"
      usage := "builder"
      short := "Manage builds" }
    [builderBuildCommand, builderPruneCommand]

/-- The command `docker checkpoint create`. -/
def checkpointCreateCommand : CommandTree :=
  .node
    { name := "create"
      usage := "create [OPTIONS] CONTAINER CHECKPOINT"
      short := "Create a checkpoint from a running container"
      flags := [
        ⟨"checkpoint-dir", "string", "Use a custom checkpoint storage directory"⟩,
        ⟨"leave-running", "bool", "Leave the container running after checkpoint"⟩] }
    []

/-- The command `docker checkpoint ls`. -/
def checkpointLsCommand : CommandTree :=
  .node
    { name := "ls"
      usage := "ls [OPTIONS] CONTAINER"
      short := "List checkpoints for a container"
      flags := [
        ⟨"checkpoint-dir", "string", "Use a custom checkpoint storage directory"⟩] }
    []

/-- The command `docker checkpoint rm`. -/
def checkpointRmCommand : CommandTree :=
  .node
    { name := "rm"
      usage := "rm [OPTIONS] CONTAINER CHECKPOINT"
      short := "Remove a checkpoint"
      flags := [
        ⟨"checkpoint-dir", "string", "Use a custom checkpoint storage directory"⟩] }
    []

/-- The command `docker checkpoint`. -/
def checkpointCommand : CommandTree :=
  .node
    { name := "checkpoint"
      usage := "checkpoint"
      short := "Manage checkpoints" }
    [checkpointCreateCommand, checkpointLsCommand, checkpointRmCommand]

/-- The command `docker config create`. -/
def configCreateCommand : CommandTree :=
  .node
    { name := "create"
      usage := "create [OPTIONS] CONFIG file|-"
      short := "Create a config from a file or STDIN"
      flags := [
        ⟨"label", "list", "Config labels"⟩,
        ⟨"template-driver", "string", "Template driver"⟩] }
    []

/-- The command `docker config inspect`. -/
def configInspectCommand : CommandTree :=
  .node
    { name := "inspect"
      usage := "inspect [OPTIONS] CONFIG [CONFIG...]"
      short := "Display detailed information on one or more configs"
      flags := [
        ⟨"format", "string", "Format the output using the given Go template"⟩,
        ⟨"pretty", "bool", "Print the information in a human friendly format"⟩] }
    []

/-- The command `docker config ls`. -/
def configLsCommand : CommandTree :=
  .node
    { name := "ls"
      usage := "ls [OPTIONS]"
      short := "List configs"
      flags := [
        ⟨"filter", "string", "Filter output based on conditions provided"⟩,
        ⟨"format", "string", "Pretty-print configs using a Go template"⟩,
        ⟨"quiet", "bool", "Only display IDs"⟩] }
    []

/-- The command `docker config rm`. -/
def configRmCommand : CommandTree :=
  .node
    { name := "rm"
      usage := "rm CONFIG [CONFIG...]"
      short := "Remove one or more configs" }
    []

/-- The command `docker config`. -/
def configCommand : CommandTree :=
  .node
    { name := "config"
      usage := "config"
      short := "Manage Docker configs" }
    [configCreateCommand, configInspectCommand, configLsCommand, configRmCommand]

/-- The command `docker context create`. -/
def contextCreateCommand : CommandTree :=
  .node
    { name := "create"
      usage := "create [OPTIONS] CONTEXT"
      short := "Create a context"
      flags := [
        ⟨"default-stack-orchestrator", "string",
          "Default orchestrator for stack operations to use with this context (swarm|kubernetes|all)"⟩,
        ⟨"description", "string", "Description of the context"⟩,
        ⟨"docker", "string", "set the docker endpoint"⟩,
        ⟨"from", "string", "create context from a named context"⟩,
        ⟨"kubernetes", "string", "set the kubernetes endpoint"⟩] }
    []

/-- The command `docker context export`. -/
def contextExportCommand : CommandTree :=
  .node
    { name := "export"
      usage := "export [OPTIONS] CONTEXT [FILE|-]"
      short := "Export a context to a tar or kubeconfig file"
      flags := [
        ⟨"kubeconfig", "bool", "Export as a kubeconfig file"⟩] }
    []

/-- The command `docker context import`. -/
def contextImportCommand : CommandTree :=
  .node
    { name := "import"
      usage := "import CONTEXT FILE|-"
      short := "Import a context from a tar or zip file" }
    []

/-- The command `docker context inspect`. -/
def contextInspectCommand : CommandTree :=
  .node
    { name := "inspect"
      usage := "inspect [OPTIONS] [CONTEXT] [CONTEXT...]"
      short := "Display detailed information on one or more contexts"
      flags := [
        ⟨"format", "string", "Format the output using the given Go template"⟩] }
    []

/-- The command `docker context ls`. -/
def contextLsCommand : CommandTree :=
  .node
    { name := "ls"
      usage := "ls [OPTIONS]"
      short := "List contexts"
      flags := [
        ⟨"format", "string", "Pretty-print contexts using a Go template"⟩,
        ⟨"quiet", "bool", "Only show context names"⟩] }
    []

/-- The command `docker context rm`. -/
def contextRmCommand : CommandTree :=
  .node
    { name := "rm"
      usage := "rm CONTEXT [CONTEXT...]"
      short := "Remove one or more contexts"
      flags := [
        ⟨"force", "bool", "Force the removal of a context in use"⟩] }
    []

/-- The command `docker context update`. -/
def contextUpdateCommand : CommandTree :=
  .node
    { name := "update"
      usage := "update [OPTIONS] CONTEXT"
      short := "Update a context"
      flags := [
        ⟨"default-stack-orchestrator", "string",
          "Default orchestrator for stack operations to use with this context (swarm|kubernetes|all)"⟩,
        ⟨"description", "string", "Description of the context"⟩,
        ⟨"docker", "string", "set the docker endpoint"⟩,
        ⟨"kubernetes", "string", "set the kubernetes endpoint"⟩] }
    []

/-- The command `docker context use`. -/
def contextUseCommand : CommandTree :=
  .node
    { name := "use"
      usage := "use CONTEXT"
      short := "Set the current docker context" }
    []

/-- The command `docker context`. -/
def contextCommand : CommandTree :=
  .node
    { name := "context"
      usage := "context"
      short := "Manage contexts" }
    [contextCreateCommand, contextExportCommand, contextImportCommand, contextInspectCommand,
      contextLsCommand, contextRmCommand, contextUpdateCommand, contextUseCommand]

/-- The command `docker manifest annotate`. -/
def manifestAnnotateCommand : CommandTree :=
  .node
    { name := "annotate"
      usage := "annotate [OPTIONS] MANIFEST_LIST MANIFEST"
      short := "Add additional information to a local image manifest"
      flags := [
        ⟨"arch", "string", "Set architecture"⟩,
        ⟨"os", "string", "Set operating system"⟩,
        ⟨"os-features", "string", "Set operating system feature"⟩,
        ⟨"os-version", "string", "Set operating system version"⟩,
        ⟨"variant", "string", "Set architecture variant"⟩] }
    []

/-- The command `docker manifest create`. -/
def manifestCreateCommand : CommandTree :=
  .node
    { name := "create"
      usage := "create MANIFEST_LIST MANIFEST [MANIFEST...]"
      short := "Create a local manifest list for annotating and pushing to a registry"
      flags := [
        ⟨"amend", "bool", "Amend an existing manifest list"⟩,
        ⟨"insecure", "bool", "Allow communication with an insecure registry"⟩] }
    []

/-- The command `docker manifest inspect`. -/
def manifestInspectCommand : CommandTree :=
  .node
    { name := "inspect"
      usage := "inspect [OPTIONS] [MANIFEST_LIST] MANIFEST"
      short := "Display an image manifest, or manifest list"
      flags := [
        ⟨"insecure", "bool", "Allow communication with an insecure registry"⟩,
        ⟨"verbose", "bool", "Output additional info including layers and platform"⟩] }
    []

/-- The command `docker manifest push`. -/
def manifestPushCommand : CommandTree :=
  .node
    { name := "push"
      usage := "push [OPTIONS] MANIFEST_LIST"
      short := "Push a manifest list to a repository"
      flags := [
        ⟨"insecure", "bool", "Allow push to an insecure registry"⟩,
        ⟨"purge", "bool", "Remove the local manifest list after push"⟩] }
    []

/-- The command `docker manifest rm`. -/
def manifestRmCommand : CommandTree :=
  .node
    { name := "rm"
      usage := "rm MANIFEST_LIST [MANIFEST_LIST...]"
      short := "Delete one or more manifest lists from local storage" }
    []

/-- The command `docker manifest`. -/
def manifestCommand : CommandTree :=
  .node
    { name := "manifest"
      usage := "manifest COMMAND"
      short := "Manage Docker image manifests and manifest lists" }
    [manifestAnnotateCommand, manifestCreateCommand, manifestInspectCommand, manifestPushCommand,
      manifestRmCommand]

/-- The command `docker network connect`. -/
def networkConnectCommand : CommandTree :=
  .node
    { name := "connect"
      usage := "connect [OPTIONS] NETWORK CONTAINER"
      short := "Connect a container to a network"
      flags := [
        ⟨"alias", "string", "Add network-scoped alias for the container"⟩,
        ⟨"driver-opt", "string", "driver options for the network"⟩,
        ⟨"ip", "string", "IPv4 address (e.g., 172.30.100.104)"⟩,
        ⟨"ip6", "string", "IPv6 address (e.g., 2001:db8::33)"⟩,
        ⟨"link", "list", "Add link to another container"⟩,
        ⟨"link-local-ip", "string", "Add a link-local address for the container"⟩] }
    []

/-- The command `docker network create`. -/
def networkCreateCommand : CommandTree :=
  .node
    { name := "create"
      usage := "create [OPTIONS] NETWORK"
      short := "Create a network"
      flags := [
        ⟨"attachable", "bool", "Enable manual container attachment"⟩,
        ⟨"aux-address", "map", "Auxiliary IPv4 or IPv6 addresses used by Network driver"⟩,
        ⟨"config-from", "string", "The network from which to copy the configuration"⟩,
        ⟨"config-only", "bool", "Create a configuration only network"⟩,
        ⟨"driver", "string", "Driver to manage the Network"⟩,
        ⟨"gateway", "string", "IPv4 or IPv6 Gateway for the master subnet"⟩,
        ⟨"ingress", "bool", "Create swarm routing-mesh network"⟩,
        ⟨"internal", "bool", "Restrict external access to the network"⟩,
        ⟨"ip-range", "string", "Allocate container ip from a sub-range"⟩,
        ⟨"ipam-driver", "string", "IP Address Management Driver"⟩,
        ⟨"ipam-opt", "map", "Set IPAM driver specific options"⟩,
        ⟨"ipv6", "bool", "Enable IPv6 networking"⟩,
        ⟨"label", "list", "Set metadata on a network"⟩,
        ⟨"opt", "map", "Set driver specific options"⟩,
        ⟨"scope", "string", "Control the network's scope"⟩,
        ⟨"subnet", "string", "Subnet in CIDR format that represents a network segment"⟩] }
    []

/-- The command `docker network disconnect`. -/
def networkDisconnectCommand : CommandTree :=
  .node
    { name := "disconnect"
      usage := "disconnect [OPTIONS] NETWORK CONTAINER"
      short := "Disconnect a container from a network"
      flags := [
        ⟨"force", "bool", "Force the container to disconnect from a network"⟩] }
    []

/-- The command `docker network inspect`. -/
def networkInspectCommand : CommandTree :=
  .node
    { name := "inspect"
      usage := "inspect [OPTIONS] NETWORK [NETWORK...]"
      short := "Display detailed information on one or more networks"
      flags := [
        ⟨"format", "string", "Format the output using the given Go template"⟩,
        ⟨"verbose", "bool", "Verbose output for diagnostics"⟩] }
    []

/-- The command `docker network ls`. -/
def networkLsCommand : CommandTree :=
  .node
    { name := "ls"
      usage := "ls [OPTIONS]"
      short := "List networks"
      flags := [
        ⟨"filter", "string", "Provide filter values (e.g. 'driver=bridge')"⟩,
        ⟨"format", "string", "Pretty-print networks using a Go template"⟩,
        ⟨"no-trunc", "bool", "Do not truncate the output"⟩,
        ⟨"quiet", "bool", "Only display network IDs"⟩] }
    []

/-- The command `docker network prune`. -/
def networkPruneCommand : CommandTree :=
  .node
    { name := "prune"
      usage := "prune [OPTIONS]"
      short := "Remove all unused networks"
      flags := [
        ⟨"filter", "string", "Provide filter values (e.g. 'until=<timestamp>')"⟩,
        ⟨"force", "bool", "Do not prompt for confirmation"⟩] }
    []

/-- The command `docker network rm`. -/
def networkRmCommand : CommandTree :=
  .node
    { name := "rm"
      usage := "rm NETWORK [NETWORK...]"
      short := "Remove one or more networks" }
    []

/-- The command `docker network`. -/
def networkCommand : CommandTree :=
  .node
    { name := "network"
      usage := "network"
      short := "Manage networks" }
    [networkConnectCommand, networkCreateCommand, networkDisconnectCommand, networkInspectCommand,
      networkLsCommand, networkPruneCommand, networkRmCommand]

/-- The command `docker node demote`. -/
def nodeDemoteCommand : CommandTree :=
  .node
    { name := "demote"
      usage := "demote NODE [NODE...]"
      short := "Demote one or more nodes from manager in the swarm" }
    []

/-- The command `docker node inspect`. -/
def nodeInspectCommand : CommandTree :=
  .node
    { name := "inspect"
      usage := "inspect [OPTIONS] self|NODE [NODE...]"
      short := "Display detailed information on one or more nodes"
      flags := [
        ⟨"format", "string", "Format the output using the given Go template"⟩,
        ⟨"pretty", "bool", "Print the information in a human friendly format"⟩] }
    []

/-- The command `docker node ls`. -/
def nodeLsCommand : CommandTree :=
  .node
    { name := "ls"
      usage := "ls [OPTIONS]"
      short := "List nodes in the swarm"
      flags := [
        ⟨"filter", "string", "Filter output based on conditions provided"⟩,
        ⟨"format", "string", "Pretty-print nodes using a Go template"⟩,
        ⟨"quiet", "bool", "Only display IDs"⟩] }
    []

/-- The command `docker node promote`. -/
def nodePromoteCommand : CommandTree :=
  .node
    { name := "promote"
      usage := "promote NODE [NODE...]"
      short := "Promote one or more nodes to manager in the swarm" }
    []

/-- The command `docker node ps`. -/
def nodePsCommand : CommandTree :=
  .node
    { name := "ps"
      usage := "ps [OPTIONS] [NODE...]"
      short := "List tasks running on one or more nodes, defaults to current node"
      flags := [
        ⟨"filter", "string", "Filter output based on conditions provided"⟩,
        ⟨"format", "string", "Pretty-print tasks using a Go template"⟩,
        ⟨"no-resolve", "bool", "Do not map IDs to Names"⟩,
        ⟨"no-trunc", "bool", "Do not truncate output"⟩,
        ⟨"quiet", "bool", "Only display task IDs"⟩] }
    []

/-- The command `docker node rm`. -/
def nodeRmCommand : CommandTree :=
  .node
    { name := "rm"
      usage := "rm [OPTIONS] NODE [NODE...]"
      short := "Remove one or more nodes from the swarm"
      flags := [
        ⟨"force", "bool", "Force remove a node from the swarm"⟩] }
    []

/-- The command `docker node update`. -/
def nodeUpdateCommand : CommandTree :=
  .node
    { name := "update"
      usage := "update [OPTIONS] NODE"
      short := "Update a node"
      flags := [
        ⟨"availability", "string", "Availability of the node (\"active\"|\"pause\"|\"drain\")"⟩,
        ⟨"label-add", "list", "Add or update a node label (key=value)"⟩,
        ⟨"label-rm", "list", "Remove a node label if exists"⟩,
        ⟨"role", "string", "Role of the node (\"worker\"|\"manager\")"⟩] }
    []

/-- The command `docker node`. -/
def nodeCommand : CommandTree :=
  .node
    { name := "node"
      usage := "node"
      short := "Manage Swarm nodes" }
    [nodeDemoteCommand, nodeInspectCommand, nodeLsCommand, nodePromoteCommand, nodePsCommand,
      nodeRmCommand, nodeUpdateCommand]

/-- The command `docker plugin create`. -/
def pluginCreateCommand : CommandTree :=
  .node
    { name := "create"
      usage := "create [OPTIONS] PLUGIN PLUGIN-DATA-DIR"
      short := "Create a plugin from a rootfs and configuration. Plugin data directory must contain config.json and rootfs directory."
      flags := [
        ⟨"compress", "bool", "Compress the context using gzip"⟩] }
    []

/-- The command `docker plugin disable`. -/
def pluginDisableCommand : CommandTree :=
  .node
    { name := "disable"
      usage := "disable [OPTIONS] PLUGIN"
      short := "Disable a plugin"
      flags := [
        ⟨"force", "bool", "Force the disable of an active plugin"⟩] }
    []

/-- The command `docker plugin enable`. -/
def pluginEnableCommand : CommandTree :=
  .node
    { name := "enable"
      usage := "enable [OPTIONS] PLUGIN"
      short := "Enable a plugin"
      flags := [
        ⟨"timeout", "int", "HTTP client timeout (in seconds)"⟩] }
    []

/-- The command `docker plugin inspect`. -/
def pluginInspectCommand : CommandTree :=
  .node
    { name := "inspect"
      usage := "inspect [OPTIONS] PLUGIN [PLUGIN...]"
      short := "Display detailed information on one or more plugins"
      flags := [
        ⟨"format", "string", "Format the output using the given Go template"⟩] }
    []

/-- The command `docker plugin install`. -/
def pluginInstallCommand : CommandTree :=
  .node
    { name := "install"
      usage := "install [OPTIONS] PLUGIN [KEY=VALUE...]"
      short := "Install a plugin"
      flags := [
        ⟨"alias", "string", "Local name for plugin"⟩,
        ⟨"disable", "bool", "Do not enable the plugin on install"⟩,
        ⟨"disable-content-trust", "bool", "Skip image verification"⟩,
        ⟨"grant-all-permissions", "bool", "Grant all permissions necessary to run the plugin"⟩] }
    []

/-- The command `docker plugin ls`. -/
def pluginLsCommand : CommandTree :=
  .node
    { name := "ls"
      usage := "ls [OPTIONS]"
      short := "List plugins"
      flags := [
        ⟨"filter", "string", "Provide filter values (e.g. 'enabled=true')"⟩,
        ⟨"format", "string", "Pretty-print plugins using a Go template"⟩,
        ⟨"no-trunc", "bool", "Don't truncate output"⟩,
        ⟨"quiet", "bool", "Only display plugin IDs"⟩] }
    []

/-- The command `docker plugin push`. -/
def pluginPushCommand : CommandTree :=
  .node
    { name := "push"
      usage := "push [OPTIONS] PLUGIN[:TAG]"
      short := "Push a plugin to a registry"
      flags := [
        ⟨"disable-content-trust", "bool", "Skip image signing"⟩] }
    []

/-- The command `docker plugin rm`. -/
def pluginRmCommand : CommandTree :=
  .node
    { name := "rm"
      usage := "rm [OPTIONS] PLUGIN [PLUGIN...]"
      short := "Remove one or more plugins"
      flags := [
        ⟨"force", "bool", "Force the removal of an active plugin"⟩] }
    []

/-- The command `docker plugin set`. -/
def pluginSetCommand : CommandTree :=
  .node
    { name := "set"
      usage := "set PLUGIN KEY=VALUE [KEY=VALUE...]"
      short := "Change settings for a plugin" }
    []

/-- The command `docker plugin upgrade`. -/
def pluginUpgradeCommand : CommandTree :=
  .node
    { name := "upgrade"
      usage := "upgrade [OPTIONS] PLUGIN [REMOTE]"
      short := "Upgrade an existing plugin"
      flags := [
        ⟨"disable-content-trust", "bool", "Skip image verification"⟩,
        ⟨"grant-all-permissions", "bool", "Grant all permissions necessary to run the plugin"⟩,
        ⟨"skip-remote-check", "bool",
          "Do not check if specified remote plugin matches existing plugin image"⟩] }
    []

/-- The command `docker plugin`. -/
def pluginCommand : CommandTree :=
  .node
    { name := "plugin"
      usage := "plugin"
      short := "Manage plugins" }
    [pluginCreateCommand, pluginDisableCommand, pluginEnableCommand, pluginInspectCommand,
      pluginInstallCommand, pluginLsCommand, pluginPushCommand, pluginRmCommand, pluginSetCommand,
      pluginUpgradeCommand]

/-- The command `docker secret create`. -/
def secretCreateCommand : CommandTree :=
  .node
    { name := "create"
      usage := "create [OPTIONS] SECRET [file|-]"
      short := "Create a secret from a file or STDIN as content"
      flags := [
        ⟨"driver", "string", "Secret driver"⟩,
        ⟨"label", "list", "Secret labels"⟩,
        ⟨"template-driver", "string", "Template driver"⟩] }
    []

/-- The command `docker secret inspect`. -/
def secretInspectCommand : CommandTree :=
  .node
    { name := "inspect"
      usage := "inspect [OPTIONS] SECRET [SECRET...]"
      short := "Display detailed information on one or more secrets"
      flags := [
        ⟨"format", "string", "Format the output using the given Go template"⟩,
        ⟨"pretty", "bool", "Print the information in a human friendly format"⟩] }
    []

/-- The command `docker secret ls`. -/
def secretLsCommand : CommandTree :=
  .node
    { name := "ls"
      usage := "ls [OPTIONS]"
      short := "List secrets"
      flags := [
        ⟨"filter", "string", "Filter output based on conditions provided"⟩,
        ⟨"format", "string", "Pretty-print secrets using a Go template"⟩,
        ⟨"quiet", "bool", "Only display IDs"⟩] }
    []

/-- The command `docker secret rm`. -/
def secretRmCommand : CommandTree :=
  .node
    { name := "rm"
      usage := "rm SECRET [SECRET...]"
      short := "Remove one or more secrets" }
    []

/-- The command `docker secret`. -/
def secretCommand : CommandTree :=
  .node
    { name := "secret"
      usage := "secret"
      short := "Manage Docker secrets" }
    [secretCreateCommand, secretInspectCommand, secretLsCommand, secretRmCommand]

/-- The command `docker stack deploy`. -/
def stackDeployCommand : CommandTree :=
  .node
    { name := "deploy"
      usage := "deploy [OPTIONS] STACK"
      short := "Deploy a new stack or update an existing stack"
      flags := [
        ⟨"compose-file", "string", "Path to a Compose file, or \"-\" to read from stdin"⟩,
        ⟨"namespace", "string", "Kubernetes namespace to use"⟩,
        ⟨"prune", "bool", "Prune services that are no longer referenced"⟩,
        ⟨"resolve-image", "string",
          "Query the registry to resolve image digest and supported platforms (\"always\"|\"changed\"|\"never\")"⟩,
        ⟨"with-registry-auth", "bool", "Send registry authentication details to Swarm agents"⟩] }
    []

/-- The command `docker stack ls`. -/
def stackLsCommand : CommandTree :=
  .node
    { name := "ls"
      usage := "ls [OPTIONS]"
      short := "List stacks"
      flags := [
        ⟨"all-namespaces", "bool", "List stacks from all Kubernetes namespaces"⟩,
        ⟨"format", "string", "Pretty-print stacks using a Go template"⟩,
        ⟨"namespace", "string", "Kubernetes namespaces to use"⟩] }
    []

/-- The command `docker stack ps`. -/
def stackPsCommand : CommandTree :=
  .node
    { name := "ps"
      usage := "ps [OPTIONS] STACK"
      short := "List the tasks in the stack"
      flags := [
        ⟨"filter", "string", "Filter output based on conditions provided"⟩,
        ⟨"format", "string", "Pretty-print tasks using a Go template"⟩,
        ⟨"namespace", "string", "Kubernetes namespace to use"⟩,
        ⟨"no-resolve", "bool", "Do not map IDs to Names"⟩,
        ⟨"no-trunc", "bool", "Do not truncate output"⟩,
        ⟨"quiet", "bool", "Only display task IDs"⟩] }
    []

/-- The command `docker stack rm`. -/
def stackRmCommand : CommandTree :=
  .node
    { name := "rm"
      usage := "rm [OPTIONS] STACK [STACK...]"
      short := "Remove one or more stacks"
      flags := [
        ⟨"namespace", "string", "Kubernetes namespace to use"⟩] }
    []

/-- The command `docker stack services`. -/
def stackServicesCommand : CommandTree :=
  .node
    { name := "services"
      usage := "services [OPTIONS] STACK"
      short := "List the services in the stack"
      flags := [
        ⟨"filter", "string", "Filter output based on conditions provided"⟩,
        ⟨"format", "string", "Pretty-print services using a Go template"⟩,
        ⟨"namespace", "string", "Kubernetes namespace to use"⟩,
        ⟨"quiet", "bool", "Only display IDs"⟩] }
    []

/-- The command `docker stack`. -/
def stackCommand : CommandTree :=
  .node
    { name := "stack"
      usage := "stack [OPTIONS]"
      short := "Manage Docker stacks" }
    [stackDeployCommand, stackLsCommand, stackPsCommand, stackRmCommand, stackServicesCommand]

/-- The command `docker swarm ca`. -/
def swarmCaCommand : CommandTree :=
  .node
    { name := "ca"
      usage := "ca [OPTIONS]"
      short := "Display and rotate the root CA"
      flags := [
        ⟨"ca-cert", "string",
          "Path to the PEM-formatted root CA certificate to use for the new cluster"⟩,
        ⟨"ca-key", "string", "Path to the PEM-formatted root CA key to use for the new cluster"⟩,
        ⟨"cert-expiry", "string", "Validity period for node certificates (ns|us|ms|s|m|h)"⟩,
        ⟨"detach", "bool", "Exit immediately instead of waiting for the root rotation to converge"⟩,
        ⟨"external-ca", "string", "Specifications of one or more certificate signing endpoints"⟩,
        ⟨"quiet", "bool", "Suppress progress output"⟩,
        ⟨"rotate", "bool",
          "Rotate the swarm CA - if no certificate or key are provided, new ones will be generated"⟩] }
    []

/-- The command `docker swarm init`. -/
def swarmInitCommand : CommandTree :=
  .node
    { name := "init"
      usage := "init [OPTIONS]"
      short := "Initialize a swarm"
      flags := [
        ⟨"advertise-addr", "string", "Advertised address (format: <ip|interface>[:port])"⟩,
        ⟨"autolock", "bool",
          "Enable manager autolocking (requiring an unlock key to start a stopped manager)"⟩,
        ⟨"availability", "string", "Availability of the node (\"active\"|\"pause\"|\"drain\")"⟩,
        ⟨"cert-expiry", "string", "Validity period for node certificates (ns|us|ms|s|m|h)"⟩,
        ⟨"data-path-addr", "string",
          "Address or interface to use for data path traffic (format: <ip|interface>)"⟩,
        ⟨"data-path-port", "uint32",
          "Port number to use for data path traffic (1024 - 49151). If no value is set or is set to 0, the default port (4789) is used."⟩,
        ⟨"default-addr-pool", "string", "default address pool in CIDR format"⟩,
        ⟨"default-addr-pool-mask-length", "uint32", "default address pool subnet mask length"⟩,
        ⟨"dispatcher-heartbeat", "string", "Dispatcher heartbeat period (ns|us|ms|s|m|h)"⟩,
        ⟨"external-ca", "string", "Specifications of one or more certificate signing endpoints"⟩,
        ⟨"force-new-cluster", "bool", "Force create a new cluster from current state"⟩,
        ⟨"listen-addr", "string", "Listen address (format: <ip|interface>[:port])"⟩,
        ⟨"max-snapshots", "uint64", "Number of additional Raft snapshots to retain"⟩,
        ⟨"snapshot-interval", "uint64", "Number of log entries between Raft snapshots"⟩,
        ⟨"task-history-limit", "int64", "Task history retention limit"⟩] }
    []

/-- The command `docker swarm join`. -/
def swarmJoinCommand : CommandTree :=
  .node
    { name := "join"
      usage := "join [OPTIONS] HOST:PORT"
      short := "Join a swarm as a node and/or manager"
      flags := [
        ⟨"advertise-addr", "string", "Advertised address (format: <ip|interface>[:port])"⟩,
        ⟨"availability", "string", "Availability of the node (\"active\"|\"pause\"|\"drain\")"⟩,
        ⟨"data-path-addr", "string",
          "Address or interface to use for data path traffic (format: <ip|interface>)"⟩,
        ⟨"listen-addr", "string", "Listen address (format: <ip|interface>[:port])"⟩,
        ⟨"token", "string", "Token for entry into the swarm"⟩] }
    []

/-- The command `docker swarm join-token`. -/
def swarmJoinTokenCommand : CommandTree :=
  .node
    { name := "join-token"
      usage := "join-token [OPTIONS] (worker|manager)"
      short := "Manage join tokens"
      flags := [
        ⟨"quiet", "bool", "Only display token"⟩,
        ⟨"rotate", "bool", "Rotate join token"⟩] }
    []

/-- The command `docker swarm leave`. -/
def swarmLeaveCommand : CommandTree :=
  .node
    { name := "leave"
      usage := "leave [OPTIONS]"
      short := "Leave the swarm"
      flags := [
        ⟨"force", "bool", "Force this node to leave the swarm, ignoring warnings"⟩] }
    []

/-- The command `docker swarm unlock`. -/
def swarmUnlockCommand : CommandTree :=
  .node
    { name := "unlock"
      usage := "unlock"
      short := "Unlock swarm" }
    []

/-- The command `docker swarm unlock-key`. -/
def swarmUnlockKeyCommand : CommandTree :=
  .node
    { name := "unlock-key"
      usage := "unlock-key [OPTIONS]"
      short := "Manage the unlock key"
      flags := [
        ⟨"quiet", "bool", "Only display token"⟩,
        ⟨"rotate", "bool", "Rotate unlock key"⟩] }
    []

/-- The command `docker swarm update`. -/
def swarmUpdateCommand : CommandTree :=
  .node
    { name := "update"
      usage := "update [OPTIONS]"
      short := "Update the swarm"
      flags := [
        ⟨"autolock", "bool", "Change manager autolocking setting (true|false)"⟩,
        ⟨"cert-expiry", "string", "Validity period for node certificates (ns|us|ms|s|m|h)"⟩,
        ⟨"dispatcher-heartbeat", "string", "Dispatcher heartbeat period (ns|us|ms|s|m|h)"⟩,
        ⟨"external-ca", "string", "Specifications of one or more certificate signing endpoints"⟩,
        ⟨"max-snapshots", "uint64", "Number of additional Raft snapshots to retain"⟩,
        ⟨"snapshot-interval", "uint64", "Number of log entries between Raft snapshots"⟩,
        ⟨"task-history-limit", "int64", "Task history retention limit"⟩] }
    []

/-- The command `docker swarm`. -/
def swarmCommand : CommandTree :=
  .node
    { name := "swarm"
      usage := "swarm"
      short := "Manage Swarm" }
    [swarmCaCommand, swarmInitCommand, swarmJoinCommand, swarmJoinTokenCommand, swarmLeaveCommand,
      swarmUnlockCommand, swarmUnlockKeyCommand, swarmUpdateCommand]

/-- The command `docker system df`. -/
def systemDfCommand : CommandTree :=
  .node
    { name := "df"
      usage := "df [OPTIONS]"
      short := "Show docker disk usage"
      flags := [
        ⟨"format", "string", "Pretty-print images using a Go template"⟩,
        ⟨"verbose", "bool", "Show detailed information on space usage"⟩] }
    []

/-- The command `docker system dial-stdio`. -/
def systemDialStdioCommand : CommandTree :=
  .node
    { name := "dial-stdio"
      usage := "dial-stdio"
      short := "Proxy the stdio stream to the daemon connection. Should not be invoked manually." }
    []

/-- The command `docker system events`. -/
def systemEventsCommand : CommandTree :=
  .node
    { name := "events"
      usage := "events [OPTIONS]"
      short := "Get real time events from the server"
      flags := [
        ⟨"filter", "string", "Filter output based on conditions provided"⟩,
        ⟨"format", "string", "Format the output using the given Go template"⟩,
        ⟨"since", "string", "Show all events created since timestamp"⟩,
        ⟨"until", "string", "Stream events until this timestamp"⟩] }
    []

/-- The command `docker system info`. -/
def systemInfoCommand : CommandTree :=
  .node
    { name := "info"
      usage := "info [OPTIONS]"
      short := "Display system-wide information"
      flags := [
        ⟨"format", "string", "Format the output using the given Go template"⟩] }
    []

/-- The command `docker system prune`. -/
def systemPruneCommand : CommandTree :=
  .node
    { name := "prune"
      usage := "prune [OPTIONS]"
      short := "Remove unused data"
      flags := [
        ⟨"all", "bool", "Remove all unused images not just dangling ones"⟩,
        ⟨"filter", "string", "Provide filter values (e.g. 'label=<key>=<value>')"⟩,
        ⟨"force", "bool", "Do not prompt for confirmation"⟩,
        ⟨"volumes", "bool", "Prune volumes"⟩] }
    []

/-- The command `docker system`. -/
def systemCommand : CommandTree :=
  .node
    { name := "system"
      usage := "system"
      short := "Manage Docker" }
    [systemDfCommand, systemDialStdioCommand, systemEventsCommand, systemInfoCommand,
      systemPruneCommand]

/-- The command `docker trust inspect`. -/
def trustInspectCommand : CommandTree :=
  .node
    { name := "inspect"
      usage := "inspect IMAGE[:TAG] [IMAGE[:TAG]...]"
      short := "Return low-level information about keys and signatures"
      flags := [
        ⟨"pretty", "bool", "Print the information in a human friendly format"⟩] }
    []

/-- The command `docker trust key generate`. -/
def trustKeyGenerateCommand : CommandTree :=
  .node
    { name := "generate"
      usage := "generate NAME"
      short := "Generate and load a signing key-pair"
      flags := [
        ⟨"dir", "string", "Directory to generate key in, defaults to current directory"⟩] }
    []

/-- The command `docker trust key load`. -/
def trustKeyLoadCommand : CommandTree :=
  .node
    { name := "load"
      usage := "load [OPTIONS] KEYFILE"
      short := "Load a private key file for signing"
      flags := [
        ⟨"name", "string", "Name for the loaded key"⟩] }
    []

/-- The command `docker trust key`. -/
def trustKeyCommand : CommandTree :=
  .node
    { name := "key"
      usage := "key"
      short := "Manage keys for signing Docker images" }
    [trustKeyGenerateCommand, trustKeyLoadCommand]

/-- The command `docker trust revoke`. -/
def trustRevokeCommand : CommandTree :=
  .node
    { name := "revoke"
      usage := "revoke [OPTIONS] IMAGE[:TAG]"
      short := "Remove trust for an image"
      flags := [
        ⟨"yes", "bool", "Do not prompt for confirmation"⟩] }
    []

/-- The command `docker trust sign`. -/
def trustSignCommand : CommandTree :=
  .node
    { name := "sign"
      usage := "sign IMAGE:TAG"
      short := "Sign an image"
      flags := [
        ⟨"local", "bool", "Sign a locally tagged image"⟩] }
    []

/-- The command `docker trust signer add`. -/
def trustSignerAddCommand : CommandTree :=
  .node
    { name := "add"
      usage := "add OPTIONS NAME REPOSITORY [REPOSITORY...]"
      short := "Add a signer"
      flags := [
        ⟨"key", "list", "Path to the signer's public key file"⟩] }
    []

/-- The command `docker trust signer remove`. -/
def trustSignerRemoveCommand : CommandTree :=
  .node
    { name := "remove"
      usage := "remove [OPTIONS] NAME REPOSITORY [REPOSITORY...]"
      short := "Remove a signer"
      flags := [
        ⟨"force", "bool",
          "Do not prompt for confirmation before removing the most recent signer"⟩] }
    []

/-- The command `docker trust signer`. -/
def trustSignerCommand : CommandTree :=
  .node
    { name := "signer"
      usage := "signer"
      short := "Manage entities who can sign Docker images" }
    [trustSignerAddCommand, trustSignerRemoveCommand]

/-- The command `docker trust`. -/
def trustCommand : CommandTree :=
  .node
    { name := "trust"
      usage := "trust"
      short := "Manage trust on Docker images" }
    [trustInspectCommand, trustKeyCommand, trustRevokeCommand, trustSignCommand, trustSignerCommand]

/-- The command `docker volume create`. -/
def volumeCreateCommand : CommandTree :=
  .node
    { name := "create"
      usage := "create [OPTIONS] [VOLUME]"
      short := "Create a volume"
      flags := [
        ⟨"driver", "string", "Specify volume driver name"⟩,
        ⟨"label", "list", "Set metadata for a volume"⟩,
        ⟨"name", "string", "Specify volume name"⟩,
        ⟨"opt", "map", "Set driver specific options"⟩] }
    []

/-- The command `docker volume inspect`. -/
def volumeInspectCommand : CommandTree :=
  .node
    { name := "inspect"
      usage := "inspect [OPTIONS] VOLUME [VOLUME...]"
      short := "Display detailed information on one or more volumes"
      flags := [
        ⟨"format", "string", "Format the output using the given Go template"⟩] }
    []

/-- The command `docker volume ls`. -/
def volumeLsCommand : CommandTree :=
  .node
    { name := "ls"
      usage := "ls [OPTIONS]"
      short := "List volumes"
      flags := [
        ⟨"filter", "string", "Provide filter values (e.g. 'dangling=true')"⟩,
        ⟨"format", "string", "Pretty-print volumes using a Go template"⟩,
        ⟨"quiet", "bool", "Only display volume names"⟩] }
    []

/-- The command `docker volume prune`. -/
def volumePruneCommand : CommandTree :=
  .node
    { name := "prune"
      usage := "prune [OPTIONS]"
      short := "Remove all unused local volumes"
      flags := [
        ⟨"filter", "string", "Provide filter values (e.g. 'label=<label>')"⟩,
        ⟨"force", "bool", "Do not prompt for confirmation"⟩] }
    []

/-- The command `docker volume rm`. -/
def volumeRmCommand : CommandTree :=
  .node
    { name := "rm"
      usage := "rm [OPTIONS] VOLUME [VOLUME...]"
      short := "Remove one or more volumes"
      flags := [
        ⟨"force", "bool", "Force the removal of one or more volumes"⟩] }
    []

/-- The command `docker volume`. -/
def volumeCommand : CommandTree :=
  .node
    { name := "volume"
      usage := "volume COMMAND"
      short := "Manage volumes" }
    [volumeCreateCommand, volumeInspectCommand, volumeLsCommand, volumePruneCommand,
      volumeRmCommand]

end CommandWrap.Docker
