import CommandWrap.Command.Tree

/-!
# The commands of `docker service`
-/
namespace CommandWrap.Docker

/-- The command `docker service create`. -/
def serviceCreateCommand : CommandTree :=
  .node
    { name := "create"
      usage := "create [OPTIONS] IMAGE [COMMAND] [ARG...]"
      short := "Create a new service"
      flags := [
        ⟨"cap-add", "list", "Add Linux capabilities"⟩,
        ⟨"cap-drop", "list", "Drop Linux capabilities"⟩,
        ⟨"config", "string", "Specify configurations to expose to the service"⟩,
        ⟨"constraint", "list", "Placement constraints"⟩,
        ⟨"container-label", "list", "Container labels"⟩,
        ⟨"credential-spec", "string", "Credential spec for managed service account (Windows only)"⟩,
        ⟨"detach", "bool", "Exit immediately instead of waiting for the service to converge"⟩,
        ⟨"dns", "list", "Set custom DNS servers"⟩,
        ⟨"dns-option", "list", "Set DNS options"⟩,
        ⟨"dns-search", "list", "Set custom DNS search domains"⟩,
        ⟨"endpoint-mode", "string", "Endpoint mode (vip or dnsrr)"⟩,
        ⟨"entrypoint", "string", "Overwrite the default ENTRYPOINT of the image"⟩,
        ⟨"env", "list", "Set environment variables"⟩,
        ⟨"env-file", "list", "Read in a file of environment variables"⟩,
        ⟨"generic-resource", "list", "User defined resources"⟩,
        ⟨"group", "list", "Set one or more supplementary user groups for the container"⟩,
        ⟨"health-cmd", "string", "Command to run to check health"⟩,
        ⟨"health-interval", "string", "Time between running the check (ms|s|m|h)"⟩,
        ⟨"health-retries", "int", "Consecutive failures needed to report unhealthy"⟩,
        ⟨"health-start-period", "string",
          "Start period for the container to initialize before counting retries towards unstable (ms|s|m|h)"⟩,
        ⟨"health-timeout", "string", "Maximum time to allow one check to run (ms|s|m|h)"⟩,
        ⟨"host", "list", "Set one or more custom host-to-IP mappings (host:ip)"⟩,
        ⟨"hostname", "string", "Container hostname"⟩,
        ⟨"init", "bool",
          "Use an init inside each service container to forward signals and reap processes"⟩,
        ⟨"isolation", "string", "Service container isolation mode"⟩,
        ⟨"label", "list", "Service labels"⟩,
        ⟨"limit-cpu", "string", "Limit CPUs"⟩,
        ⟨"limit-memory", "string", "Limit Memory"⟩,
        ⟨"limit-pids", "int64", "Limit maximum number of processes (default 0 = unlimited)"⟩,
        ⟨"log-driver", "string", "Logging driver for service"⟩,
        ⟨"log-opt", "list", "Logging driver options"⟩,
        ⟨"max-concurrent", "uint",
          "Number of job tasks to run concurrently (default equal to --replicas)"⟩,
        ⟨"mode", "string", "Service mode (replicated, global, replicated-job, or global-job)"⟩,
        ⟨"mount", "string", "Attach a filesystem mount to the service"⟩,
        ⟨"name", "string", "Service name"⟩,
        ⟨"network", "string", "Network attachments"⟩,
        ⟨"no-healthcheck", "bool", "Disable any container-specified HEALTHCHECK"⟩,
        ⟨"no-resolve-image", "bool",
          "Do not query the registry to resolve image digest and supported platforms"⟩,
        ⟨"placement-pref", "string", "Add a placement preference"⟩,
        ⟨"publish", "string", "Publish a port as a node port"⟩,
        ⟨"quiet", "bool", "Suppress progress output"⟩,
        ⟨"read-only", "bool", "Mount the container's root filesystem as read only"⟩,
        ⟨"replicas", "uint", "Number of tasks"⟩,
        ⟨"replicas-max-per-node", "uint64",
          "Maximum number of tasks per node (default 0 = unlimited)"⟩,
        ⟨"reserve-cpu", "string", "Reserve CPUs"⟩,
        ⟨"reserve-memory", "string", "Reserve Memory"⟩,
        ⟨"restart-condition", "string",
          "Restart when condition is met (\"none\"|\"on-failure\"|\"any\") (default \"any\")"⟩,
        ⟨"restart-delay", "string", "Delay between restart attempts (ns|us|ms|s|m|h) (default 5s)"⟩,
        ⟨"restart-max-attempts", "uint", "Maximum number of restarts before giving up"⟩,
        ⟨"restart-window", "string", "Window used to evaluate the restart policy (ns|us|ms|s|m|h)"⟩,
        ⟨"rollback-delay", "string", "Delay between task rollbacks (ns|us|ms|s|m|h) (default 0s)"⟩,
        ⟨"rollback-failure-action", "string",
          "Action on rollback failure (\"pause\"|\"continue\") (default \"pause\")"⟩,
        ⟨"rollback-max-failure-ratio", "string",
          "Failure rate to tolerate during a rollback (default 0)"⟩,
        ⟨"rollback-monitor", "string",
          "Duration after each task rollback to monitor for failure (ns|us|ms|s|m|h) (default 5s)"⟩,
        ⟨"rollback-order", "string",
          "Rollback order (\"start-first\"|\"stop-first\") (default \"stop-first\")"⟩,
        ⟨"rollback-parallelism", "uint64",
          "Maximum number of tasks rolled back simultaneously (0 to roll back all at once)"⟩,
        ⟨"secret", "string", "Specify secrets to expose to the service"⟩,
        ⟨"stop-grace-period", "string",
          "Time to wait before force killing a container (ns|us|ms|s|m|h) (default 10s)"⟩,
        ⟨"stop-signal", "string", "Signal to stop the container"⟩,
        ⟨"sysctl", "list", "Sysctl options"⟩,
        ⟨"tty", "bool", "Allocate a pseudo-TTY"⟩,
        ⟨"ulimit", "string", "Ulimit options"⟩,
        ⟨"update-delay", "string", "Delay between updates (ns|us|ms|s|m|h) (default 0s)"⟩,
        ⟨"update-failure-action", "string",
          "Action on update failure (\"pause\"|\"continue\"|\"rollback\") (default \"pause\")"⟩,
        ⟨"update-max-failure-ratio", "string",
          "Failure rate to tolerate during an update (default 0)"⟩,
        ⟨"update-monitor", "string",
          "Duration after each task update to monitor for failure (ns|us|ms|s|m|h) (default 5s)"⟩,
        ⟨"update-order", "string",
          "Update order (\"start-first\"|\"stop-first\") (default \"stop-first\")"⟩,
        ⟨"update-parallelism", "uint64",
          "Maximum number of tasks updated simultaneously (0 to update all at once)"⟩,
        ⟨"user", "string", "Username or UID (format: <name|uid>[:<group|gid>])"⟩,
        ⟨"with-registry-auth", "bool", "Send registry authentication details to swarm agents"⟩,
        ⟨"workdir", "string", "Working directory inside the container"⟩] }
    []

/-- The command `docker service inspect`. -/
def serviceInspectCommand : CommandTree :=
  .node
    { name := "inspect"
      usage := "inspect [OPTIONS] SERVICE [SERVICE...]"
      short := "Display detailed information on one or more services"
      flags := [
        ⟨"format", "string", "Format the output using the given Go template"⟩,
        ⟨"pretty", "bool", "Print the information in a human friendly format"⟩] }
    []

/-- The command `docker service logs`. -/
def serviceLogsCommand : CommandTree :=
  .node
    { name := "logs"
      usage := "logs [OPTIONS] SERVICE|TASK"
      short := "Fetch the logs of a service or task"
      flags := [
        ⟨"details", "bool", "Show extra details provided to logs"⟩,
        ⟨"follow", "bool", "Follow log output"⟩,
        ⟨"no-resolve", "bool", "Do not map IDs to Names in output"⟩,
        ⟨"no-task-ids", "bool", "Do not include task IDs in output"⟩,
        ⟨"no-trunc", "bool", "Do not truncate output"⟩,
        ⟨"raw", "bool", "Do not neatly format logs"⟩,
        ⟨"since", "string",
          "Show logs since timestamp (e.g. 2013-01-02T13:23:37Z) or relative (e.g. 42m for 42 minutes)"⟩,
        ⟨"tail", "string", "Number of lines to show from the end of the logs"⟩,
        ⟨"timestamps", "bool", "Show timestamps"⟩] }
    []

/-- The command `docker service ls`. -/
def serviceLsCommand : CommandTree :=
  .node
    { name := "ls"
      usage := "ls [OPTIONS]"
      short := "List services"
      flags := [
        ⟨"filter", "string", "Filter output based on conditions provided"⟩,
        ⟨"format", "string", "Pretty-print services using a Go template"⟩,
        ⟨"quiet", "bool", "Only display IDs"⟩] }
    []

/-- The command `docker service ps`. -/
def servicePsCommand : CommandTree :=
  .node
    { name := "ps"
      usage := "ps [OPTIONS] SERVICE [SERVICE...]"
      short := "List the tasks of one or more services"
      flags := [
        ⟨"filter", "string", "Filter output based on conditions provided"⟩,
        ⟨"format", "string", "Pretty-print tasks using a Go template"⟩,
        ⟨"no-resolve", "bool", "Do not map IDs to Names"⟩,
        ⟨"no-trunc", "bool", "Do not truncate output"⟩,
        ⟨"quiet", "bool", "Only display task IDs"⟩] }
    []

/-- The command `docker service rm`. -/
def serviceRmCommand : CommandTree :=
  .node
    { name := "rm"
      usage := "rm SERVICE [SERVICE...]"
      short := "Remove one or more services" }
    []

/-- The command `docker service rollback`. -/
def serviceRollbackCommand : CommandTree :=
  .node
    { name := "rollback"
      usage := "rollback [OPTIONS] SERVICE"
      short := "Revert changes to a service's configuration"
      flags := [
        ⟨"detach", "bool", "Exit immediately instead of waiting for the service to converge"⟩,
        ⟨"quiet", "bool", "Suppress progress output"⟩] }
    []

/-- The command `docker service scale`. -/
def serviceScaleCommand : CommandTree :=
  .node
    { name := "scale"
      usage := "scale SERVICE=REPLICAS [SERVICE=REPLICAS...]"
      short := "Scale one or multiple replicated services"
      flags := [
        ⟨"detach", "bool", "Exit immediately instead of waiting for the service to converge"⟩] }
    []

/-- The command `docker service update`. -/
def serviceUpdateCommand : CommandTree :=
  .node
    { name := "update"
      usage := "update [OPTIONS] SERVICE"
      short := "Update a service"
      flags := [
        ⟨"args", "string", "Service command args"⟩,
        ⟨"cap-add", "list", "Add Linux capabilities"⟩,
        ⟨"cap-drop", "list", "Drop Linux capabilities"⟩,
        ⟨"config-add", "string", "Add or update a config file on a service"⟩,
        ⟨"config-rm", "list", "Remove a configuration file"⟩,
        ⟨"constraint-add", "list", "Add or update a placement constraint"⟩,
        ⟨"constraint-rm", "list", "Remove a constraint"⟩,
        ⟨"container-label-add", "list", "Add or update a container label"⟩,
        ⟨"container-label-rm", "list", "Remove a container label by its key"⟩,
        ⟨"credential-spec", "string", "Credential spec for managed service account (Windows only)"⟩,
        ⟨"detach", "bool", "Exit immediately instead of waiting for the service to converge"⟩,
        ⟨"dns-add", "list", "Add or update a custom DNS server"⟩,
        ⟨"dns-option-add", "list", "Add or update a DNS option"⟩,
        ⟨"dns-option-rm", "list", "Remove a DNS option"⟩,
        ⟨"dns-rm", "list", "Remove a custom DNS server"⟩,
        ⟨"dns-search-add", "list", "Add or update a custom DNS search domain"⟩,
        ⟨"dns-search-rm", "list", "Remove a DNS search domain"⟩,
        ⟨"endpoint-mode", "string", "Endpoint mode (vip or dnsrr)"⟩,
        ⟨"entrypoint", "string", "Overwrite the default ENTRYPOINT of the image"⟩,
        ⟨"env-add", "list", "Add or update an environment variable"⟩,
        ⟨"env-rm", "list", "Remove an environment variable"⟩,
        ⟨"force", "bool", "Force update even if no changes require it"⟩,
        ⟨"generic-resource-add", "list", "Add a Generic resource"⟩,
        ⟨"generic-resource-rm", "list", "Remove a Generic resource"⟩,
        ⟨"group-add", "list", "Add an additional supplementary user group to the container"⟩,
        ⟨"group-rm", "list",
          "Remove a previously added supplementary user group from the container"⟩,
        ⟨"health-cmd", "string", "Command to run to check health"⟩,
        ⟨"health-interval", "string", "Time between running the check (ms|s|m|h)"⟩,
        ⟨"health-retries", "int", "Consecutive failures needed to report unhealthy"⟩,
        ⟨"health-start-period", "string",
          "Start period for the container to initialize before counting retries towards unstable (ms|s|m|h)"⟩,
        ⟨"health-timeout", "string", "Maximum time to allow one check to run (ms|s|m|h)"⟩,
        ⟨"host-add", "list", "Add a custom host-to-IP mapping (host:ip)"⟩,
        ⟨"host-rm", "list", "Remove a custom host-to-IP mapping (host:ip)"⟩,
        ⟨"hostname", "string", "Container hostname"⟩,
        ⟨"image", "string", "Service image tag"⟩,
        ⟨"init", "bool",
          "Use an init inside each service container to forward signals and reap processes"⟩,
        ⟨"isolation", "string", "Service container isolation mode"⟩,
        ⟨"label-add", "list", "Add or update a service label"⟩,
        ⟨"label-rm", "list", "Remove a label by its key"⟩,
        ⟨"limit-cpu", "string", "Limit CPUs"⟩,
        ⟨"limit-memory", "string", "Limit Memory"⟩,
        ⟨"limit-pids", "int64", "Limit maximum number of processes (default 0 = unlimited)"⟩,
        ⟨"log-driver", "string", "Logging driver for service"⟩,
        ⟨"log-opt", "list", "Logging driver options"⟩,
        ⟨"max-concurrent", "uint",
          "Number of job tasks to run concurrently (default equal to --replicas)"⟩,
        ⟨"mount-add", "string", "Add or update a mount on a service"⟩,
        ⟨"mount-rm", "list", "Remove a mount by its target path"⟩,
        ⟨"network-add", "string", "Add a network"⟩,
        ⟨"network-rm", "list", "Remove a network"⟩,
        ⟨"no-healthcheck", "bool", "Disable any container-specified HEALTHCHECK"⟩,
        ⟨"no-resolve-image", "bool",
          "Do not query the registry to resolve image digest and supported platforms"⟩,
        ⟨"placement-pref-add", "string", "Add a placement preference"⟩,
        ⟨"placement-pref-rm", "string", "Remove a placement preference"⟩,
        ⟨"publish-add", "string", "Add or update a published port"⟩,
        ⟨"publish-rm", "string", "Remove a published port by its target port"⟩,
        ⟨"quiet", "bool", "Suppress progress output"⟩,
        ⟨"read-only", "bool", "Mount the container's root filesystem as read only"⟩,
        ⟨"replicas", "uint", "Number of tasks"⟩,
        ⟨"replicas-max-per-node", "uint64",
          "Maximum number of tasks per node (default 0 = unlimited)"⟩,
        ⟨"reserve-cpu", "string", "Reserve CPUs"⟩,
        ⟨"reserve-memory", "string", "Reserve Memory"⟩,
        ⟨"restart-condition", "string",
          "Restart when condition is met (\"none\"|\"on-failure\"|\"any\")"⟩,
        ⟨"restart-delay", "string", "Delay between restart attempts (ns|us|ms|s|m|h)"⟩,
        ⟨"restart-max-attempts", "uint", "Maximum number of restarts before giving up"⟩,
        ⟨"restart-window", "string", "Window used to evaluate the restart policy (ns|us|ms|s|m|h)"⟩,
        ⟨"rollback", "bool", "Rollback to previous specification"⟩,
        ⟨"rollback-delay", "string", "Delay between task rollbacks (ns|us|ms|s|m|h)"⟩,
        ⟨"rollback-failure-action", "string",
          "Action on rollback failure (\"pause\"|\"continue\")"⟩,
        ⟨"rollback-max-failure-ratio", "string", "Failure rate to tolerate during a rollback"⟩,
        ⟨"rollback-monitor", "string",
          "Duration after each task rollback to monitor for failure (ns|us|ms|s|m|h)"⟩,
        ⟨"rollback-order", "string", "Rollback order (\"start-first\"|\"stop-first\")"⟩,
        ⟨"rollback-parallelism", "uint64",
          "Maximum number of tasks rolled back simultaneously (0 to roll back all at once)"⟩,
        ⟨"secret-add", "string", "Add or update a secret on a service"⟩,
        ⟨"secret-rm", "list", "Remove a secret"⟩,
        ⟨"stop-grace-period", "string",
          "Time to wait before force killing a container (ns|us|ms|s|m|h)"⟩,
        ⟨"stop-signal", "string", "Signal to stop the container"⟩,
        ⟨"sysctl-add", "list", "Add or update a Sysctl option"⟩,
        ⟨"sysctl-rm", "list", "Remove a Sysctl option"⟩,
        ⟨"tty", "bool", "Allocate a pseudo-TTY"⟩,
        ⟨"ulimit-add", "string", "Add or update a ulimit option"⟩,
        ⟨"ulimit-rm", "list", "Remove a ulimit option"⟩,
        ⟨"update-delay", "string", "Delay between updates (ns|us|ms|s|m|h)"⟩,
        ⟨"update-failure-action", "string",
          "Action on update failure (\"pause\"|\"continue\"|\"rollback\")"⟩,
        ⟨"update-max-failure-ratio", "string", "Failure rate to tolerate during an update"⟩,
        ⟨"update-monitor", "string",
          "Duration after each task update to monitor for failure (ns|us|ms|s|m|h)"⟩,
        ⟨"update-order", "string", "Update order (\"start-first\"|\"stop-first\")"⟩,
        ⟨"update-parallelism", "uint64",
          "Maximum number of tasks updated simultaneously (0 to update all at once)"⟩,
        ⟨"user", "string", "Username or UID (format: <name|uid>[:<group|gid>])"⟩,
        ⟨"with-registry-auth", "bool", "Send registry authentication details to swarm agents"⟩,
        ⟨"workdir", "string", "Working directory inside the container"⟩] }
    []

/-- The command `docker service`. -/
def serviceCommand : CommandTree :=
  .node
    { name := "service"
      usage := "service"
      short := "Manage services" }
    [serviceCreateCommand, serviceInspectCommand, serviceLogsCommand, serviceLsCommand,
      servicePsCommand, serviceRmCommand, serviceRollbackCommand, serviceScaleCommand,
      serviceUpdateCommand]

end CommandWrap.Docker
