import CommandWrap.Command.Tree

/-!
# The commands of `docker container`
-/
namespace CommandWrap.Docker

/-- The command `docker container attach`. -/
def containerAttachCommand : CommandTree :=
  .node
    { name := "attach"
      usage := "attach [OPTIONS] CONTAINER"
      short := "Attach local standard input, output, and error streams to a running container"
      flags := [
        ⟨"detach-keys", "string", "Override the key sequence for detaching a container"⟩,
        ⟨"no-stdin", "bool", "Do not attach STDIN"⟩,
        ⟨"sig-proxy", "bool", "Proxy all received signals to the process"⟩] }
    []

/-- The command `docker container commit`. -/
def containerCommitCommand : CommandTree :=
  .node
    { name := "commit"
      usage := "commit [OPTIONS] CONTAINER [REPOSITORY[:TAG]]"
      short := "Create a new image from a container's changes"
      flags := [
        ⟨"author", "string", "Author (e.g., \"John Hannibal Smith <hannibal@a-team.com>\")"⟩,
        ⟨"change", "list", "Apply Dockerfile instruction to the created image"⟩,
        ⟨"message", "string", "Commit message"⟩,
        ⟨"pause", "bool", "Pause container during commit"⟩] }
    []

/-- The command `docker container cp`. -/
def containerCpCommand : CommandTree :=
  .node
    { name := "cp"
      usage := "cp [OPTIONS] CONTAINER:SRC_PATH DEST_PATH|-\n\n\tdocker cp [OPTIONS] SRC_PATH|- CONTAINER:DEST_PATH"
      short := "Copy files/folders between a container and the local filesystem"
      flags := [
        ⟨"archive", "bool", "Archive mode (copy all uid/gid information)"⟩,
        ⟨"follow-link", "bool", "Always follow symbol link in SRC_PATH"⟩] }
    []

/-- The command `docker container create`. -/
def containerCreateCommand : CommandTree :=
  .node
    { name := "create"
      usage := "create [OPTIONS] IMAGE [COMMAND] [ARG...]"
      short := "Create a new container"
      flags := [
        ⟨"add-host", "list", "Add a custom host-to-IP mapping (host:ip)"⟩,
        ⟨"attach", "list", "Attach to STDIN, STDOUT or STDERR"⟩,
        ⟨"blkio-weight", "uint16",
          "Block IO (relative weight), between 10 and 1000, or 0 to disable (default 0)"⟩,
        ⟨"blkio-weight-device", "list", "Block IO weight (relative device weight)"⟩,
        ⟨"cap-add", "list", "Add Linux capabilities"⟩,
        ⟨"cap-drop", "list", "Drop Linux capabilities"⟩,
        ⟨"cgroup-parent", "string", "Optional parent cgroup for the container"⟩,
        ⟨"cgroupns", "string",
          "Cgroup namespace to use (host|private)\n'host':    Run the container in the Docker host's cgroup namespace\n'private': Run the container in its own private cgroup namespace\n'':        Use the cgroup namespace as configured by the\n           default-cgroupns-mode option on the daemon (default)"⟩,
        ⟨"cidfile", "string", "Write the container ID to the file"⟩,
        ⟨"cpu-count", "int64", "CPU count (Windows only)"⟩,
        ⟨"cpu-percent", "int64", "CPU percent (Windows only)"⟩,
        ⟨"cpu-period", "int64", "Limit CPU CFS (Completely Fair Scheduler) period"⟩,
        ⟨"cpu-quota", "int64", "Limit CPU CFS (Completely Fair Scheduler) quota"⟩,
        ⟨"cpu-rt-period", "int64", "Limit CPU real-time period in microseconds"⟩,
        ⟨"cpu-rt-runtime", "int64", "Limit CPU real-time runtime in microseconds"⟩,
        ⟨"cpu-shares", "int64", "CPU shares (relative weight)"⟩,
        ⟨"cpus", "string", "Number of CPUs"⟩,
        ⟨"cpuset-cpus", "string", "CPUs in which to allow execution (0-3, 0,1)"⟩,
        ⟨"cpuset-mems", "string", "MEMs in which to allow execution (0-3, 0,1)"⟩,
        ⟨"device", "list", "Add a host device to the container"⟩,
        ⟨"device-cgroup-rule", "list", "Add a rule to the cgroup allowed devices list"⟩,
        ⟨"device-read-bps", "list", "Limit read rate (bytes per second) from a device"⟩,
        ⟨"device-read-iops", "list", "Limit read rate (IO per second) from a device"⟩,
        ⟨"device-write-bps", "list", "Limit write rate (bytes per second) to a device"⟩,
        ⟨"device-write-iops", "list", "Limit write rate (IO per second) to a device"⟩,
        ⟨"disable-content-trust", "bool", "Skip image verification"⟩,
        ⟨"dns", "list", "Set custom DNS servers"⟩,
        ⟨"dns-opt", "list", "Set DNS options"⟩,
        ⟨"dns-option", "list", "Set DNS options"⟩,
        ⟨"dns-search", "list", "Set custom DNS search domains"⟩,
        ⟨"domainname", "string", "Container NIS domain name"⟩,
        ⟨"entrypoint", "string", "Overwrite the default ENTRYPOINT of the image"⟩,
        ⟨"env", "list", "Set environment variables"⟩,
        ⟨"env-file", "list", "Read in a file of environment variables"⟩,
        ⟨"expose", "list", "Expose a port or a range of ports"⟩,
        ⟨"gpus", "string", "GPU devices to add to the container ('all' to pass all GPUs)"⟩,
        ⟨"group-add", "list", "Add additional groups to join"⟩,
        ⟨"health-cmd", "string", "Command to run to check health"⟩,
        ⟨"health-interval", "string", "Time between running the check (ms|s|m|h) (default 0s)"⟩,
        ⟨"health-retries", "int", "Consecutive failures needed to report unhealthy"⟩,
        ⟨"health-start-period", "string",
          "Start period for the container to initialize before starting health-retries countdown (ms|s|m|h) (default 0s)"⟩,
        ⟨"health-timeout", "string",
          "Maximum time to allow one check to run (ms|s|m|h) (default 0s)"⟩,
        ⟨"help", "bool", "Print usage"⟩,
        ⟨"hostname", "string", "Container host name"⟩,
        ⟨"init", "bool",
          "Run an init inside the container that forwards signals and reaps processes"⟩,
        ⟨"interactive", "bool", "Keep STDIN open even if not attached"⟩,
        ⟨"io-maxbandwidth", "string",
          "Maximum IO bandwidth limit for the system drive (Windows only)"⟩,
        ⟨"io-maxiops", "uint64", "Maximum IOps limit for the system drive (Windows only)"⟩,
        ⟨"ip", "string", "IPv4 address (e.g., 172.30.100.104)"⟩,
        ⟨"ip6", "string", "IPv6 address (e.g., 2001:db8::33)"⟩,
        ⟨"ipc", "string", "IPC mode to use"⟩,
        ⟨"isolation", "string", "Container isolation technology"⟩,
        ⟨"kernel-memory", "string", "Kernel memory limit"⟩,
        ⟨"label", "list", "Set meta data on a container"⟩,
        ⟨"label-file", "list", "Read in a line delimited file of labels"⟩,
        ⟨"link", "list", "Add link to another container"⟩,
        ⟨"link-local-ip", "list", "Container IPv4/IPv6 link-local addresses"⟩,
        ⟨"log-driver", "string", "Logging driver for the container"⟩,
        ⟨"log-opt", "list", "Log driver options"⟩,
        ⟨"mac-address", "string", "Container MAC address (e.g., 92:d0:c6:0a:29:33)"⟩,
        ⟨"memory", "string", "Memory limit"⟩,
        ⟨"memory-reservation", "string", "Memory soft limit"⟩,
        ⟨"memory-swap", "string",
          "Swap limit equal to memory plus swap: '-1' to enable unlimited swap"⟩,
        ⟨"memory-swappiness", "int64", "Tune container memory swappiness (0 to 100)"⟩,
        ⟨"mount", "string", "Attach a filesystem mount to the container"⟩,
        ⟨"name", "string", "Assign a name to the container"⟩,
        ⟨"net", "string", "Connect a container to a network"⟩,
        ⟨"net-alias", "list", "Add network-scoped alias for the container"⟩,
        ⟨"network", "string", "Connect a container to a network"⟩,
        ⟨"network-alias", "list", "Add network-scoped alias for the container"⟩,
        ⟨"no-healthcheck", "bool", "Disable any container-specified HEALTHCHECK"⟩,
        ⟨"oom-kill-disable", "bool", "Disable OOM Killer"⟩,
        ⟨"oom-score-adj", "int", "Tune host's OOM preferences (-1000 to 1000)"⟩,
        ⟨"pid", "string", "PID namespace to use"⟩,
        ⟨"pids-limit", "int64", "Tune container pids limit (set -1 for unlimited)"⟩,
        ⟨"platform", "string", "Set platform if server is multi-platform capable"⟩,
        ⟨"privileged", "bool", "Give extended privileges to this container"⟩,
        ⟨"publish", "list", "Publish a container's port(s) to the host"⟩,
        ⟨"publish-all", "bool", "Publish all exposed ports to random ports"⟩,
        ⟨"pull", "string", "Pull image before creating (\"always\"|\"missing\"|\"never\")"⟩,
        ⟨"read-only", "bool", "Mount the container's root filesystem as read only"⟩,
        ⟨"restart", "string", "Restart policy to apply when a container exits"⟩,
        ⟨"rm", "bool", "Automatically remove the container when it exits"⟩,
        ⟨"runtime", "string", "Runtime to use for this container"⟩,
        ⟨"security-opt", "list", "Security Options"⟩,
        ⟨"shm-size", "string", "Size of /dev/shm"⟩,
        ⟨"stop-signal", "string", "Signal to stop a container"⟩,
        ⟨"stop-timeout", "int", "Timeout (in seconds) to stop a container"⟩,
        ⟨"storage-opt", "list", "Storage driver options for the container"⟩,
        ⟨"sysctl", "map", "Sysctl options"⟩,
        ⟨"tmpfs", "list", "Mount a tmpfs directory"⟩,
        ⟨"tty", "bool", "Allocate a pseudo-TTY"⟩,
        ⟨"ulimit", "string", "Ulimit options"⟩,
        ⟨"user", "string", "Username or UID (format: <name|uid>[:<group|gid>])"⟩,
        ⟨"userns", "string", "User namespace to use"⟩,
        ⟨"uts", "string", "UTS namespace to use"⟩,
        ⟨"volume", "list", "Bind mount a volume"⟩,
        ⟨"volume-driver", "string", "Optional volume driver for the container"⟩,
        ⟨"volumes-from", "list", "Mount volumes from the specified container(s)"⟩,
        ⟨"workdir", "string", "Working directory inside the container"⟩] }
    []

/-- The command `docker container diff`. -/
def containerDiffCommand : CommandTree :=
  .node
    { name := "diff"
      usage := "diff CONTAINER"
      short := "Inspect changes to files or directories on a container's filesystem" }
    []

/-- The command `docker container exec`. -/
def containerExecCommand : CommandTree :=
  .node
    { name := "exec"
      usage := "exec [OPTIONS] CONTAINER COMMAND [ARG...]"
      short := "Run a command in a running container"
      flags := [
        ⟨"detach", "bool", "Detached mode: run command in the background"⟩,
        ⟨"detach-keys", "string", "Override the key sequence for detaching a container"⟩,
        ⟨"env", "list", "Set environment variables"⟩,
        ⟨"env-file", "list", "Read in a file of environment variables"⟩,
        ⟨"interactive", "bool", "Keep STDIN open even if not attached"⟩,
        ⟨"privileged", "bool", "Give extended privileges to the command"⟩,
        ⟨"tty", "bool", "Allocate a pseudo-TTY"⟩,
        ⟨"user", "string", "Username or UID (format: <name|uid>[:<group|gid>])"⟩,
        ⟨"workdir", "string", "Working directory inside the container"⟩] }
    []

/-- The command `docker container export`. -/
def containerExportCommand : CommandTree :=
  .node
    { name := "export"
      usage := "export [OPTIONS] CONTAINER"
      short := "Export a container's filesystem as a tar archive"
      flags := [
        ⟨"output", "string", "Write to a file, instead of STDOUT"⟩] }
    []

/-- The command `docker container inspect`. -/
def containerInspectCommand : CommandTree :=
  .node
    { name := "inspect"
      usage := "inspect [OPTIONS] CONTAINER [CONTAINER...]"
      short := "Display detailed information on one or more containers"
      flags := [
        ⟨"format", "string", "Format the output using the given Go template"⟩,
        ⟨"size", "bool", "Display total file sizes"⟩] }
    []

/-- The command `docker container kill`. -/
def containerKillCommand : CommandTree :=
  .node
    { name := "kill"
      usage := "kill [OPTIONS] CONTAINER [CONTAINER...]"
      short := "Kill one or more running containers"
      flags := [
        ⟨"signal", "string", "Signal to send to the container"⟩] }
    []

/-- The command `docker container logs`. -/
def containerLogsCommand : CommandTree :=
  .node
    { name := "logs"
      usage := "logs [OPTIONS] CONTAINER"
      short := "Fetch the logs of a container"
      flags := [
        ⟨"details", "bool", "Show extra details provided to logs"⟩,
        ⟨"follow", "bool", "Follow log output"⟩,
        ⟨"since", "string",
          "Show logs since timestamp (e.g. 2013-01-02T13:23:37Z) or relative (e.g. 42m for 42 minutes)"⟩,
        ⟨"tail", "string", "Number of lines to show from the end of the logs"⟩,
        ⟨"timestamps", "bool", "Show timestamps"⟩,
        ⟨"until", "string",
          "Show logs before a timestamp (e.g. 2013-01-02T13:23:37Z) or relative (e.g. 42m for 42 minutes)"⟩] }
    []

/-- The command `docker container ls`. -/
def containerLsCommand : CommandTree :=
  .node
    { name := "ls"
      usage := "ls [OPTIONS]"
      short := "List containers"
      flags := [
        ⟨"all", "bool", "Show all containers (default shows just running)"⟩,
        ⟨"filter", "string", "Filter output based on conditions provided"⟩,
        ⟨"format", "string", "Pretty-print containers using a Go template"⟩,
        ⟨"last", "int", "Show n last created containers (includes all states)"⟩,
        ⟨"latest", "bool", "Show the latest created container (includes all states)"⟩,
        ⟨"no-trunc", "bool", "Don't truncate output"⟩,
        ⟨"quiet", "bool", "Only display container IDs"⟩,
        ⟨"size", "bool", "Display total file sizes"⟩] }
    []

/-- The command `docker container pause`. -/
def containerPauseCommand : CommandTree :=
  .node
    { name := "pause"
      usage := "pause CONTAINER [CONTAINER...]"
      short := "Pause all processes within one or more containers" }
    []

/-- The command `docker container port`. -/
def containerPortCommand : CommandTree :=
  .node
    { name := "port"
      usage := "port CONTAINER [PRIVATE_PORT[/PROTO]]"
      short := "List port mappings or a specific mapping for the container" }
    []

/-- The command `docker container prune`. -/
def containerPruneCommand : CommandTree :=
  .node
    { name := "prune"
      usage := "prune [OPTIONS]"
      short := "Remove all stopped containers"
      flags := [
        ⟨"filter", "string", "Provide filter values (e.g. 'until=<timestamp>')"⟩,
        ⟨"force", "bool", "Do not prompt for confirmation"⟩] }
    []

/-- The command `docker container rename`. -/
def containerRenameCommand : CommandTree :=
  .node
    { name := "rename"
      usage := "rename CONTAINER NEW_NAME"
      short := "Rename a container" }
    []

/-- The command `docker container restart`. -/
def containerRestartCommand : CommandTree :=
  .node
    { name := "restart"
      usage := "restart [OPTIONS] CONTAINER [CONTAINER...]"
      short := "Restart one or more containers"
      flags := [
        ⟨"time", "int", "Seconds to wait for stop before killing the container"⟩] }
    []

/-- The command `docker container rm`. -/
def containerRmCommand : CommandTree :=
  .node
    { name := "rm"
      usage := "rm [OPTIONS] CONTAINER [CONTAINER...]"
      short := "Remove one or more containers"
      flags := [
        ⟨"force", "bool", "Force the removal of a running container (uses SIGKILL)"⟩,
        ⟨"link", "bool", "Remove the specified link"⟩,
        ⟨"volumes", "bool", "Remove anonymous volumes associated with the container"⟩] }
    []

/-- The command `docker container run`. -/
def containerRunCommand : CommandTree :=
  .node
    { name := "run"
      usage := "run [OPTIONS] IMAGE [COMMAND] [ARG...]"
      short := "Run a command in a new container"
      flags := [
        ⟨"add-host", "list", "Add a custom host-to-IP mapping (host:ip)"⟩,
        ⟨"attach", "list", "Attach to STDIN, STDOUT or STDERR"⟩,
        ⟨"blkio-weight", "uint16",
          "Block IO (relative weight), between 10 and 1000, or 0 to disable (default 0)"⟩,
        ⟨"blkio-weight-device", "list", "Block IO weight (relative device weight)"⟩,
        ⟨"cap-add", "list", "Add Linux capabilities"⟩,
        ⟨"cap-drop", "list", "Drop Linux capabilities"⟩,
        ⟨"cgroup-parent", "string", "Optional parent cgroup for the container"⟩,
        ⟨"cgroupns", "string",
          "Cgroup namespace to use (host|private)\n'host':    Run the container in the Docker host's cgroup namespace\n'private': Run the container in its own private cgroup namespace\n'':        Use the cgroup namespace as configured by the\n           default-cgroupns-mode option on the daemon (default)"⟩,
        ⟨"cidfile", "string", "Write the container ID to the file"⟩,
        ⟨"cpu-count", "int64", "CPU count (Windows only)"⟩,
        ⟨"cpu-percent", "int64", "CPU percent (Windows only)"⟩,
        ⟨"cpu-period", "int64", "Limit CPU CFS (Completely Fair Scheduler) period"⟩,
        ⟨"cpu-quota", "int64", "Limit CPU CFS (Completely Fair Scheduler) quota"⟩,
        ⟨"cpu-rt-period", "int64", "Limit CPU real-time period in microseconds"⟩,
        ⟨"cpu-rt-runtime", "int64", "Limit CPU real-time runtime in microseconds"⟩,
        ⟨"cpu-shares", "int64", "CPU shares (relative weight)"⟩,
        ⟨"cpus", "string", "Number of CPUs"⟩,
        ⟨"cpuset-cpus", "string", "CPUs in which to allow execution (0-3, 0,1)"⟩,
        ⟨"cpuset-mems", "string", "MEMs in which to allow execution (0-3, 0,1)"⟩,
        ⟨"detach", "bool", "Run container in background and print container ID"⟩,
        ⟨"detach-keys", "string", "Override the key sequence for detaching a container"⟩,
        ⟨"device", "list", "Add a host device to the container"⟩,
        ⟨"device-cgroup-rule", "list", "Add a rule to the cgroup allowed devices list"⟩,
        ⟨"device-read-bps", "list", "Limit read rate (bytes per second) from a device"⟩,
        ⟨"device-read-iops", "list", "Limit read rate (IO per second) from a device"⟩,
        ⟨"device-write-bps", "list", "Limit write rate (bytes per second) to a device"⟩,
        ⟨"device-write-iops", "list", "Limit write rate (IO per second) to a device"⟩,
        ⟨"disable-content-trust", "bool", "Skip image verification"⟩,
        ⟨"dns", "list", "Set custom DNS servers"⟩,
        ⟨"dns-opt", "list", "Set DNS options"⟩,
        ⟨"dns-option", "list", "Set DNS options"⟩,
        ⟨"dns-search", "list", "Set custom DNS search domains"⟩,
        ⟨"domainname", "string", "Container NIS domain name"⟩,
        ⟨"entrypoint", "string", "Overwrite the default ENTRYPOINT of the image"⟩,
        ⟨"env", "list", "Set environment variables"⟩,
        ⟨"env-file", "list", "Read in a file of environment variables"⟩,
        ⟨"expose", "list", "Expose a port or a range of ports"⟩,
        ⟨"gpus", "string", "GPU devices to add to the container ('all' to pass all GPUs)"⟩,
        ⟨"group-add", "list", "Add additional groups to join"⟩,
        ⟨"health-cmd", "string", "Command to run to check health"⟩,
        ⟨"health-interval", "string", "Time between running the check (ms|s|m|h) (default 0s)"⟩,
        ⟨"health-retries", "int", "Consecutive failures needed to report unhealthy"⟩,
        ⟨"health-start-period", "string",
          "Start period for the container to initialize before starting health-retries countdown (ms|s|m|h) (default 0s)"⟩,
        ⟨"health-timeout", "string",
          "Maximum time to allow one check to run (ms|s|m|h) (default 0s)"⟩,
        ⟨"help", "bool", "Print usage"⟩,
        ⟨"hostname", "string", "Container host name"⟩,
        ⟨"init", "bool",
          "Run an init inside the container that forwards signals and reaps processes"⟩,
        ⟨"interactive", "bool", "Keep STDIN open even if not attached"⟩,
        ⟨"io-maxbandwidth", "string",
          "Maximum IO bandwidth limit for the system drive (Windows only)"⟩,
        ⟨"io-maxiops", "uint64", "Maximum IOps limit for the system drive (Windows only)"⟩,
        ⟨"ip", "string", "IPv4 address (e.g., 172.30.100.104)"⟩,
        ⟨"ip6", "string", "IPv6 address (e.g., 2001:db8::33)"⟩,
        ⟨"ipc", "string", "IPC mode to use"⟩,
        ⟨"isolation", "string", "Container isolation technology"⟩,
        ⟨"kernel-memory", "string", "Kernel memory limit"⟩,
        ⟨"label", "list", "Set meta data on a container"⟩,
        ⟨"label-file", "list", "Read in a line delimited file of labels"⟩,
        ⟨"link", "list", "Add link to another container"⟩,
        ⟨"link-local-ip", "list", "Container IPv4/IPv6 link-local addresses"⟩,
        ⟨"log-driver", "string", "Logging driver for the container"⟩,
        ⟨"log-opt", "list", "Log driver options"⟩,
        ⟨"mac-address", "string", "Container MAC address (e.g., 92:d0:c6:0a:29:33)"⟩,
        ⟨"memory", "string", "Memory limit"⟩,
        ⟨"memory-reservation", "string", "Memory soft limit"⟩,
        ⟨"memory-swap", "string",
          "Swap limit equal to memory plus swap: '-1' to enable unlimited swap"⟩,
        ⟨"memory-swappiness", "int64", "Tune container memory swappiness (0 to 100)"⟩,
        ⟨"mount", "string", "Attach a filesystem mount to the container"⟩,
        ⟨"name", "string", "Assign a name to the container"⟩,
        ⟨"net", "string", "Connect a container to a network"⟩,
        ⟨"net-alias", "list", "Add network-scoped alias for the container"⟩,
        ⟨"network", "string", "Connect a container to a network"⟩,
        ⟨"network-alias", "list", "Add network-scoped alias for the container"⟩,
        ⟨"no-healthcheck", "bool", "Disable any container-specified HEALTHCHECK"⟩,
        ⟨"oom-kill-disable", "bool", "Disable OOM Killer"⟩,
        ⟨"oom-score-adj", "int", "Tune host's OOM preferences (-1000 to 1000)"⟩,
        ⟨"pid", "string", "PID namespace to use"⟩,
        ⟨"pids-limit", "int64", "Tune container pids limit (set -1 for unlimited)"⟩,
        ⟨"platform", "string", "Set platform if server is multi-platform capable"⟩,
        ⟨"privileged", "bool", "Give extended privileges to this container"⟩,
        ⟨"publish", "list", "Publish a container's port(s) to the host"⟩,
        ⟨"publish-all", "bool", "Publish all exposed ports to random ports"⟩,
        ⟨"pull", "string", "Pull image before running (\"always\"|\"missing\"|\"never\")"⟩,
        ⟨"read-only", "bool", "Mount the container's root filesystem as read only"⟩,
        ⟨"restart", "string", "Restart policy to apply when a container exits"⟩,
        ⟨"rm", "bool", "Automatically remove the container when it exits"⟩,
        ⟨"runtime", "string", "Runtime to use for this container"⟩,
        ⟨"security-opt", "list", "Security Options"⟩,
        ⟨"shm-size", "string", "Size of /dev/shm"⟩,
        ⟨"sig-proxy", "bool", "Proxy received signals to the process"⟩,
        ⟨"stop-signal", "string", "Signal to stop a container"⟩,
        ⟨"stop-timeout", "int", "Timeout (in seconds) to stop a container"⟩,
        ⟨"storage-opt", "list", "Storage driver options for the container"⟩,
        ⟨"sysctl", "map", "Sysctl options"⟩,
        ⟨"tmpfs", "list", "Mount a tmpfs directory"⟩,
        ⟨"tty", "bool", "Allocate a pseudo-TTY"⟩,
        ⟨"ulimit", "string", "Ulimit options"⟩,
        ⟨"user", "string", "Username or UID (format: <name|uid>[:<group|gid>])"⟩,
        ⟨"userns", "string", "User namespace to use"⟩,
        ⟨"uts", "string", "UTS namespace to use"⟩,
        ⟨"volume", "list", "Bind mount a volume"⟩,
        ⟨"volume-driver", "string", "Optional volume driver for the container"⟩,
        ⟨"volumes-from", "list", "Mount volumes from the specified container(s)"⟩,
        ⟨"workdir", "string", "Working directory inside the container"⟩] }
    []

/-- The command `docker container start`. -/
def containerStartCommand : CommandTree :=
  .node
    { name := "start"
      usage := "start [OPTIONS] CONTAINER [CONTAINER...]"
      short := "Start one or more stopped containers"
      flags := [
        ⟨"attach", "bool", "Attach STDOUT/STDERR and forward signals"⟩,
        ⟨"checkpoint", "string", "Restore from this checkpoint"⟩,
        ⟨"checkpoint-dir", "string", "Use a custom checkpoint storage directory"⟩,
        ⟨"detach-keys", "string", "Override the key sequence for detaching a container"⟩,
        ⟨"interactive", "bool", "Attach container's STDIN"⟩] }
    []

/-- The command `docker container stats`. -/
def containerStatsCommand : CommandTree :=
  .node
    { name := "stats"
      usage := "stats [OPTIONS] [CONTAINER...]"
      short := "Display a live stream of container(s) resource usage statistics"
      flags := [
        ⟨"all", "bool", "Show all containers (default shows just running)"⟩,
        ⟨"format", "string", "Pretty-print images using a Go template"⟩,
        ⟨"no-stream", "bool", "Disable streaming stats and only pull the first result"⟩,
        ⟨"no-trunc", "bool", "Do not truncate output"⟩] }
    []

/-- The command `docker container stop`. -/
def containerStopCommand : CommandTree :=
  .node
    { name := "stop"
      usage := "stop [OPTIONS] CONTAINER [CONTAINER...]"
      short := "Stop one or more running containers"
      flags := [
        ⟨"time", "int", "Seconds to wait for stop before killing it"⟩] }
    []

/-- The command `docker container top`. -/
def containerTopCommand : CommandTree :=
  .node
    { name := "top"
      usage := "top CONTAINER [ps OPTIONS]"
      short := "Display the running processes of a container" }
    []

/-- The command `docker container unpause`. -/
def containerUnpauseCommand : CommandTree :=
  .node
    { name := "unpause"
      usage := "unpause CONTAINER [CONTAINER...]"
      short := "Unpause all processes within one or more containers" }
    []

/-- The command `docker container update`. -/
def containerUpdateCommand : CommandTree :=
  .node
    { name := "update"
      usage := "update [OPTIONS] CONTAINER [CONTAINER...]"
      short := "Update configuration of one or more containers"
      flags := [
        ⟨"blkio-weight", "uint16",
          "Block IO (relative weight), between 10 and 1000, or 0 to disable (default 0)"⟩,
        ⟨"cpu-period", "int64", "Limit CPU CFS (Completely Fair Scheduler) period"⟩,
        ⟨"cpu-quota", "int64", "Limit CPU CFS (Completely Fair Scheduler) quota"⟩,
        ⟨"cpu-rt-period", "int64", "Limit the CPU real-time period in microseconds"⟩,
        ⟨"cpu-rt-runtime", "int64", "Limit the CPU real-time runtime in microseconds"⟩,
        ⟨"cpu-shares", "int64", "CPU shares (relative weight)"⟩,
        ⟨"cpus", "string", "Number of CPUs"⟩,
        ⟨"cpuset-cpus", "string", "CPUs in which to allow execution (0-3, 0,1)"⟩,
        ⟨"cpuset-mems", "string", "MEMs in which to allow execution (0-3, 0,1)"⟩,
        ⟨"kernel-memory", "string", "Kernel memory limit"⟩,
        ⟨"memory", "string", "Memory limit"⟩,
        ⟨"memory-reservation", "string", "Memory soft limit"⟩,
        ⟨"memory-swap", "string",
          "Swap limit equal to memory plus swap: '-1' to enable unlimited swap"⟩,
        ⟨"pids-limit", "int64", "Tune container pids limit (set -1 for unlimited)"⟩,
        ⟨"restart", "string", "Restart policy to apply when a container exits"⟩] }
    []

/-- The command `docker container wait`. -/
def containerWaitCommand : CommandTree :=
  .node
    { name := "wait"
      usage := "wait CONTAINER [CONTAINER...]"
      short := "Block until one or more containers stop, then print their exit codes" }
    []

/-- The command `docker container`. -/
def containerCommand : CommandTree :=
  .node
    { name := "container"
      usage := "container"
      short := "Manage containers" }
    [containerAttachCommand, containerCommitCommand, containerCpCommand, containerCreateCommand,
      containerDiffCommand, containerExecCommand, containerExportCommand, containerInspectCommand,
      containerKillCommand, containerLogsCommand, containerLsCommand, containerPauseCommand,
      containerPortCommand, containerPruneCommand, containerRenameCommand, containerRestartCommand,
      containerRmCommand, containerRunCommand, containerStartCommand, containerStatsCommand,
      containerStopCommand, containerTopCommand, containerUnpauseCommand, containerUpdateCommand,
      containerWaitCommand]

end CommandWrap.Docker
